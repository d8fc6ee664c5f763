/-!
# Lists by key

Small tables kept as lists of pairs, each key once and in ascending order.
-/

namespace ScriptHost.Keyed

variable {κ α : Type} [DecidableEq κ]

/-- The value under a key. -/
def find? (key : κ) (entries : List (κ × α)) : Option α :=
  (entries.find? fun (k, _) => k = key).map (·.2)

/-- Puts a value at the place of its key; the value that was there is replaced. -/
def insert [LT κ] [DecidableLT κ] (key : κ) (value : α) : List (κ × α) → List (κ × α)
  | [] => [(key, value)]
  | (k, v) :: rest =>
    if key < k then (key, value) :: (k, v) :: rest
    else if k = key then (key, value) :: rest
    else (k, v) :: insert key value rest

end ScriptHost.Keyed
