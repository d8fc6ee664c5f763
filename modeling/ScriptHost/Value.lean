import ScriptHost.Entity

/-!
# Values of script events

Script events carry values whose type is only known when they arrive.  A dictionary is the list of
its entries by ascending key, each key once.
-/

namespace ScriptHost

inductive Value where
  | none
  | bool (value : Bool)
  | int (value : Int64)
  | uint (value : UInt64)
  | double (value : Number.Binary64)
  | string (value : String)
  | list (items : List Value)
  | dict (entries : List (String × Value))
  | entity (value : Entity)
  | vector3 (value : Vector3)
deriving Repr, Inhabited

namespace Value

def isNone : Value → Bool
  | none => true
  | _ => false

/-- The text of a string value. -/
def asString? : Value → Option String
  | string text => some text
  | _ => Option.none

/-- Puts an entry at its place among entries with ascending keys; an entry with the same key is
replaced. -/
def insertEntry (key : String) (value : Value) : List (String × Value) → List (String × Value)
  | [] => [(key, value)]
  | (k, v) :: rest =>
    if key < k then (key, value) :: (k, v) :: rest
    else if k = key then (key, value) :: rest
    else (k, v) :: insertEntry key value rest

/-- The entries by ascending key; of several with one key the last counts. -/
def sortEntries (entries : List (String × Value)) : List (String × Value) :=
  entries.foldl (fun sorted (key, value) => insertEntry key value sorted) []

end Value

end ScriptHost
