import ScriptHost.Json.Printer

/-!
# Writing TOML strings

A string is written in the plainest form that needs no escapes: between double quotes, else between
single quotes, else between three of either.  A text with line breaks takes several lines.
-/

namespace ScriptHost.Toml

/-- The length of the longest run of a character. -/
def longestRun (c : Char) (text : List Char) : Nat :=
  go 0 0 text
where
  go (longest current : Nat) : List Char → Nat
    | [] => max longest current
    | d :: rest => if d = c then go longest (current + 1) rest else go (max longest current) 0 rest

/-- A control character that no literal form can hold. -/
def isControl (c : Char) : Bool :=
  (c.toNat < 0x20 && c ≠ '\t' && c ≠ '\n') || c.toNat = 0x7F

/-- The text between double quotes, with escapes; every quote that would make a run longer than
`quotes` is escaped, and line breaks are kept when `multiline`. -/
def escaped (quotes : Nat) (multiline : Bool) : Nat → List Char → List String
  | _, [] => []
  | run, c :: rest =>
    if c = '"' then
      if quotes < run + 1 then "\\\"" :: escaped quotes multiline 0 rest
      else "\"" :: escaped quotes multiline (run + 1) rest
    else
      let written :=
        if c = '\x08' then "\\b"
        else if c = '\t' then "\\t"
        else if c = '\n' then (if multiline then "\n" else "\\n")
        else if c = '\x0c' then "\\f"
        else if c = '\r' then "\\r"
        else if c = '\\' then "\\\\"
        else if isControl c then "\\u" ++ (Json.hexadecimal 4 c.toNat).toUpper
        else c.toString
      written :: escaped quotes multiline 0 rest

/-- A text as a TOML string. -/
def writeString (text : String) : String :=
  let cs := text.toList
  let controls := cs.any isControl
  let escapes := cs.contains '\\'
  let breaks := cs.contains '\n'
  let double := longestRun '"' cs
  let single := longestRun '\'' cs
  let multiline (quote inner : String) : String :=
    quote ++ (if breaks then "\n" else "") ++ inner ++ quote
  if !controls && !escapes && double = 0 && !breaks then
    "\"" ++ String.join (escaped 0 false 0 cs) ++ "\""
  else if !controls && single = 0 && !breaks then "'" ++ text ++ "'"
  else if !controls && !escapes && double ≤ 2 then
    multiline "\"\"\"" (String.join (escaped 2 true 0 cs))
  else if !controls && single ≤ 2 then multiline "'''" text
  else if breaks then multiline "\"\"\"" (String.join (escaped 2 true 0 cs))
  else "\"" ++ String.join (escaped 0 false 0 cs) ++ "\""

end ScriptHost.Toml
