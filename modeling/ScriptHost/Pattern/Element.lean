import ScriptHost.Pattern.Basic

/-!
# Elements of patterns

The smallest parts of a pattern: characters, shorthands for classes, and assertions about a place.
A backslash begins those that no single character can be written for.
-/

namespace ScriptHost.Pattern

inductive Element where
  /-- A character; `byNumber` if it is written with two hexadecimal digits, as bytes are. -/
  | character (c : Char) (byNumber : Bool)
  /-- The digits, the blanks or the characters of words, or all others. -/
  | shorthand (negated : Bool)
  | edge
  /-- A place where a word begins or ends, or does not. -/
  | wordEdge
deriving DecidableEq, Repr

/-- Whether an element can stand by itself.  There are no tables of the classes and of the cases of
all characters.  In bytes, nothing may match a part of a character. -/
def Element.fits (modes : Modes) : Element → Bool
  | character c byNumber =>
    if modes.unicode then !modes.ignoreCase else !(byNumber && 0x80 ≤ c.toNat)
  | shorthand negated => !modes.unicode && !negated
  | edge => true
  | wordEdge => !modes.unicode

/-- Whether an element can stand in a class. -/
def Element.fitsClass (modes : Modes) : Element → Bool
  | character c _ => if modes.unicode then !modes.ignoreCase else c.toNat < 0x80
  | shorthand negated => !modes.unicode && !negated
  | edge => false
  | wordEdge => false

/-- The value of a hexadecimal digit. -/
def hexDigit? (c : Char) : Option Nat :=
  if c.isDigit then some (c.toNat - '0'.toNat)
  else if 'a' ≤ c && c ≤ 'f' then some (c.toNat - 'a'.toNat + 10)
  else if 'A' ≤ c && c ≤ 'F' then some (c.toNat - 'A'.toNat + 10)
  else none

/-- Reads hexadecimal digits on to a number. -/
def readHexDigits (modes : Modes) (number : Nat) : Nat → List Char → Option (Nat × List Char)
  | 0, cs => some (number, cs)
  | count + 1, cs =>
    match skipBlanks modes cs with
    | [] => none
    | c :: rest => do readHexDigits modes (number * 16 + (← hexDigit? c)) count rest

/-- Reads the number of a character. -/
def readNumbered (modes : Modes) (digits : Nat) (cs : List Char) :
    Option (Element × List Char) := do
  let (number, rest) ← readHexDigits modes 0 digits cs
  if number.isValidChar then some (.character (Char.ofNat number) (digits = 2), rest) else none

/-- The control that a letter after a backslash stands for. -/
def control? : Char → Option Char
  | 'a' => some '\x07'
  | 'f' => some '\x0c'
  | 't' => some '\t'
  | 'n' => some '\n'
  | 'r' => some '\r'
  | 'v' => some '\x0b'
  | _ => none

/-- Reads what follows a backslash. -/
def readEscaped (modes : Modes) : List Char → Option (Element × List Char)
  | [] => none
  | c :: rest =>
    match c with
    | 'x' => readNumbered modes 2 rest
    | 'u' => readNumbered modes 4 rest
    | 'U' => readNumbered modes 8 rest
    | 'A' => some (.edge, rest)
    | 'z' => some (.edge, rest)
    | _ =>
      if "dsw".toList.contains c then some (.shorthand false, rest)
      else if "DSW".toList.contains c then some (.shorthand true, rest)
      else if "bB<>".toList.contains c then some (.wordEdge, rest)
      else if c.toNat < 0x80 && !c.isAlphanum then some (.character c false, rest)
      else (control? c).map fun control => (.character control false, rest)

/-- Reads an element of a class. -/
def readElement (modes : Modes) : List Char → Option (Element × List Char)
  | [] => none
  | '\\' :: rest => readEscaped modes rest
  | c :: rest => some (.character c false, rest)

end ScriptHost.Pattern
