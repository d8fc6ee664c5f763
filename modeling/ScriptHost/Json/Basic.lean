import ScriptHost.Number.Binary

/-!
# JSON trees

A number leaf is either an integer, carried exactly, or a 64-bit float.  An object is the list of
its members; where a key is asked for, the first member with it counts, and the operations here
that build objects never give a key twice.
-/

namespace ScriptHost

open Number (Binary64)

inductive Json where
  | null
  | bool (value : Bool)
  | int (value : Int)
  | real (value : Binary64)
  | str (value : String)
  | arr (items : List Json)
  | obj (members : List (String × Json))
deriving Repr, Inhabited

namespace Json

/-- Sets one member, in the place of an earlier one with the same key or else at the end. -/
def setMember (key : String) (value : Json) : List (String × Json) → List (String × Json)
  | [] => [(key, value)]
  | (k, v) :: rest => if k = key then (k, value) :: rest else (k, v) :: setMember key value rest

/-- The value of a member. -/
def member? (key : String) (members : List (String × Json)) : Option Json :=
  (members.find? fun (k, _) => k = key).map (·.2)

/-- The value of a member, null for anything that has no such member. -/
def get (key : String) : Json → Json
  | .obj members => (member? key members).getD .null
  | _ => .null

end Json

end ScriptHost
