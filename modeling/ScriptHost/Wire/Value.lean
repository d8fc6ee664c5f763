import ScriptHost.Value
import ScriptHost.Wire.Entity

/-!
# Data form of values

A value is an object with one member, its kind and its content.  The empty value is a name alone,
and is also read as a member with null content.  The entries of a dictionary are read in any
order.
-/

namespace ScriptHost.Value

open Wire

mutual

def toJson : Value → Json
  | .none => .str "None"
  | .bool b => .obj [("Bool", .bool b)]
  | .int n => .obj [("Int", .int n.toInt)]
  | .uint n => .obj [("UInt", .int n.toNat)]
  | .double x => .obj [("Double", writeBinary64 x)]
  | .string s => .obj [("String", .str s)]
  | .list items => .obj [("List", .arr (listToJson items))]
  | .dict entries => .obj [("Dict", .obj (entriesToJson entries))]
  | .entity e => .obj [("Entity", e.toJson)]
  | .vector3 v => .obj [("Vector3", v.toJson)]

def listToJson : List Value → List Json
  | [] => []
  | item :: rest => item.toJson :: listToJson rest

def entriesToJson : List (String × Value) → List (String × Json)
  | [] => []
  | (key, value) :: rest => (key, value.toJson) :: entriesToJson rest

end

/-- A value whose content has no values inside. -/
def leafOfJson? (kind : String) (content : Json) : Option Value :=
  match kind with
  | "None" => match content with
    | .null => some .none
    | _ => Option.none
  | "Bool" => (readBool? content).map .bool
  | "Int" => (readInt64? content).map .int
  | "UInt" => (readUInt64? content).map .uint
  | "Double" => (readBinary64? content).map .double
  | "String" => (readString? content).map .string
  | "Entity" => (Entity.ofJson? content).map .entity
  | "Vector3" => (Vector3.ofJson? content).map .vector3
  | _ => Option.none

mutual

def ofJson? : Json → Option Value
  | .str kind => if kind = "None" then some .none else Option.none
  | .obj [(kind, .arr items)] =>
    if kind = "List" then (listOfJson? items).map .list else leafOfJson? kind (.arr items)
  | .obj [(kind, .obj members)] =>
    if kind = "Dict" then (entriesOfJson? members).map fun entries => .dict (sortEntries entries)
    else leafOfJson? kind (.obj members)
  | .obj [(kind, content)] => leafOfJson? kind content
  | _ => Option.none

def listOfJson? : List Json → Option (List Value)
  | [] => some []
  | item :: rest => do return (← ofJson? item) :: (← listOfJson? rest)

def entriesOfJson? : List (String × Json) → Option (List (String × Value))
  | [] => some []
  | (key, value) :: rest => do return (key, ← ofJson? value) :: (← entriesOfJson? rest)

end

end ScriptHost.Value
