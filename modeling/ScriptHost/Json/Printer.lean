import ScriptHost.Json.Basic

/-!
# Writing JSON

A tree is written without blanks, the members of an object in the order of their keys.  A number
leaf with a fraction has no text of its own here: the caller says how floats are written.
-/

namespace ScriptHost.Json

/-- A hexadecimal text with at least `width` digits. -/
def hexadecimal (width n : Nat) : String :=
  let digits := Nat.toDigits 16 n
  String.ofList (List.replicate (width - digits.length) '0' ++ digits)

/-- A character inside a JSON string. -/
def escapedChar (c : Char) : String :=
  if c = '"' then "\\\""
  else if c = '\\' then "\\\\"
  else if c = '\n' then "\\n"
  else if c = '\t' then "\\t"
  else if c = '\r' then "\\r"
  else if c.toNat < 0x20 then "\\u" ++ hexadecimal 4 c.toNat
  else c.toString

/-- A JSON string. -/
def printString (text : String) : String :=
  "\"" ++ text.foldl (fun out c => out ++ escapedChar c) "" ++ "\""

/-- Puts a member before the first one with a greater key. -/
def insertMember (key : String) (text : String) : List (String × String) → List (String × String)
  | [] => [(key, text)]
  | (k, v) :: rest =>
    if key < k then (key, text) :: (k, v) :: rest else (k, v) :: insertMember key text rest

mutual

/-- The text of a tree, floats being written by `float`. -/
def print (float : Number.Binary64 → String) : Json → String
  | .null => "null"
  | .bool true => "true"
  | .bool false => "false"
  | .int n => toString n
  | .real x => float x
  | .str s => printString s
  | .arr items => "[" ++ String.intercalate "," (printItems float items) ++ "]"
  | .obj members =>
    let sorted := (printMembers float members).foldr (fun (k, v) => insertMember k v) []
    "\x7b" ++ String.intercalate "," (sorted.map fun (k, v) => printString k ++ ":" ++ v) ++ "\x7d"

def printItems (float : Number.Binary64 → String) : List Json → List String
  | [] => []
  | item :: rest => print float item :: printItems float rest

def printMembers (float : Number.Binary64 → String) : List (String × Json) → List (String × String)
  | [] => []
  | (key, value) :: rest => (key, print float value) :: printMembers float rest

end

end ScriptHost.Json
