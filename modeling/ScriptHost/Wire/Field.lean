import ScriptHost.Json.Basic

/-!
# Fields of the data form

How leaves and records are read from and written to JSON trees.  Reading is strict about widths and
kinds: an integer must be an integer leaf in range, while a float field takes integers too.  A
record may also be given as an array of all its fields in order.
-/

namespace ScriptHost.Wire

open Number

def readBool? : Json → Option Bool
  | .bool b => some b
  | _ => none

def readString? : Json → Option String
  | .str s => some s
  | _ => none

/-- An unsigned integer below `bound`. -/
def readNat? (bound : Nat) : Json → Option Nat
  | .int n => if 0 ≤ n ∧ n < bound then some n.toNat else none
  | _ => none

def readUInt8? (json : Json) : Option UInt8 :=
  (readNat? UInt8.size json).map UInt8.ofNat

def readUInt16? (json : Json) : Option UInt16 :=
  (readNat? UInt16.size json).map UInt16.ofNat

def readUInt32? (json : Json) : Option UInt32 :=
  (readNat? UInt32.size json).map UInt32.ofNat

def readUInt64? (json : Json) : Option UInt64 :=
  (readNat? UInt64.size json).map UInt64.ofNat

/-- A signed integer whose distance from zero is below `half`, or equal to it when negative. -/
def readInt? (half : Nat) : Json → Option Int
  | .int n => if -(half : Int) ≤ n ∧ n < half then some n else none
  | _ => none

def readInt8? (json : Json) : Option Int8 :=
  (readInt? (UInt8.size / 2) json).map Int8.ofInt

def readInt64? (json : Json) : Option Int64 :=
  (readInt? (UInt64.size / 2) json).map Int64.ofInt

def readBinary32? : Json → Option Binary32
  | .int n => some (Binary32.ofInt n)
  | .real x => some x.narrow
  | _ => none

def readBinary64? : Json → Option Binary64
  | .int n => some (Binary64.ofInt n)
  | .real x => some x
  | _ => none

/-- A finite float is a number leaf and any other is null. -/
def writeBinary64 (x : Binary64) : Json :=
  if x.isFinite then .real x else .null

def writeBinary32 (x : Binary32) : Json :=
  writeBinary64 x.widen

def readList? (read : Json → Option α) : Json → Option (List α)
  | .arr items => items.mapM read
  | _ => none

/-- A value that may be null. -/
def readOption? (read : Json → Option α) : Json → Option (Option α)
  | .null => some none
  | json => (read json).map some

def writeOption (write : α → Json) : Option α → Json
  | some value => write value
  | none => .null

/-- The fields of a record under `names`: by name from an object, whose other members do not matter,
or from an array of exactly as many items. -/
def recordFields? (names : List String) : Json → Option (List Json)
  | .obj members => names.mapM fun name => Json.member? name members
  | .arr items => if items.length = names.length then some items else none
  | _ => none

/-- A name standing alone, or as the key of the only member of an object whose value is null. -/
def readTag? : Json → Option String
  | .str name => some name
  | .obj [(name, .null)] => some name
  | _ => none

end ScriptHost.Wire
