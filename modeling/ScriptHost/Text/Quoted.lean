import ScriptHost.Text.Unprintable

/-!
# Quoted text in diagnostics

A string in a diagnostic stands between double quotes.  The quote, the backslash and the four
controls with a short name are written with a backslash; a character without a glyph of its own is
written by its code point in hexadecimal.
-/

namespace ScriptHost.Text

/-- A character as it stands between quotes. -/
def quotedChar (c : Char) : String :=
  if c = '\x00' then "\\0"
  else if c = '\t' then "\\t"
  else if c = '\n' then "\\n"
  else if c = '\r' then "\\r"
  else if c = '"' then "\\\""
  else if c = '\\' then "\\\\"
  else if isUnprintable c then
    "\\u\x7b" ++ String.ofList (Nat.toDigits 16 c.toNat) ++ "\x7d"
  else c.toString

/-- The text in double quotes. -/
def quoted (text : String) : String :=
  "\"" ++ String.join (text.toList.map quotedChar) ++ "\""

end ScriptHost.Text
