import ScriptHost.Wire.Field

/-!
# Reading hand-written data

Data written by hand is read loosely: what is missing or of another kind counts as empty, zero or
false.
-/

namespace ScriptHost.Json

def has (json : Json) (key : String) : Bool :=
  match json with
  | .obj members => (member? key members).isSome
  | _ => false

def isNull : Json → Bool
  | .null => true
  | _ => false

def text? (json : Json) : Option String := Wire.readString? json

def text (json : Json) (default : String) : String := json.text?.getD default

def flag (json : Json) : Bool := (Wire.readBool? json).getD false

def asInt : Json → Int
  | .int n => n
  | _ => 0

def asNat (json : Json) : Nat := json.asInt.toNat

/-- The number in a leaf, if there is one. -/
def asNat? (json : Json) : Option Nat := if json.isNull then none else some json.asNat

def double (json : Json) : Number.Binary64 := (Wire.readBinary64? json).getD ⟨0⟩

def items : Json → List Json
  | .arr items => items
  | _ => []

/-- The texts in an array. -/
def texts (json : Json) : List String := json.items.map (·.text "")

def pairs : Json → List (String × Json)
  | .obj members => members
  | _ => []

/-- Text leaves. -/
def ofTexts (texts : List String) : Json := .arr (texts.map .str)

end ScriptHost.Json
