import ScriptHost.Json.Basic

/-!
# Reading JSON

The whole text must be one tree, with blanks around its tokens.  A number without a fraction and an
exponent is an integer leaf, as long as 64 bits hold it with or without a sign; every other number,
and minus zero, is the nearest float.  Of two members with one key the later counts.
-/

namespace ScriptHost.Json

open Number (Binary64)

/-- Drops leading blanks. -/
def skipBlanks : List Char → List Char
  | [] => []
  | c :: rest =>
    if c = ' ' || c = '\n' || c = '\t' || c = '\r' then skipBlanks rest else c :: rest

/-- The value of a hexadecimal digit. -/
def hexDigit? (c : Char) : Option Nat :=
  if '0' ≤ c && c ≤ '9' then some (c.toNat - 0x30)
  else if 'a' ≤ c && c ≤ 'f' then some (c.toNat - 0x61 + 10)
  else if 'A' ≤ c && c ≤ 'F' then some (c.toNat - 0x41 + 10)
  else none

/-- The value of four hexadecimal digits. -/
def codeUnit? (a b c d : Char) : Option Nat := do
  return (((← hexDigit? a) * 16 + (← hexDigit? b)) * 16 + (← hexDigit? c)) * 16 + (← hexDigit? d)

/-- The character of a short escape. -/
def shortEscape? : Char → Option Char
  | '"' => some '"'
  | '\\' => some '\\'
  | '/' => some '/'
  | 'b' => some '\x08'
  | 'f' => some '\x0c'
  | 'n' => some '\n'
  | 'r' => some '\r'
  | 't' => some '\t'
  | _ => none

/-- The rest of a string after its opening quote; `read` holds the characters so far, last
first. -/
def stringTail (read : List Char) : List Char → Option (String × List Char)
  | [] => none
  | '"' :: rest => some (String.ofList read.reverse, rest)
  | '\\' :: 'u' :: a :: b :: c :: d :: rest =>
    match codeUnit? a b c d, rest with
    | none, _ => none
    | some high, '\\' :: 'u' :: e :: f :: g :: h :: rest' =>
      match codeUnit? e f g h with
      | some low =>
        if 0xD800 ≤ high && high < 0xDC00 && 0xDC00 ≤ low && low < 0xE000 then
          stringTail
            (Char.ofNat (0x10000 + (high - 0xD800) * 0x400 + (low - 0xDC00)) :: read) rest'
        else stringTail (Char.ofNat high :: read) ('\\' :: 'u' :: e :: f :: g :: h :: rest')
      | none => none
    | some unit, rest => stringTail (Char.ofNat unit :: read) rest
  | '\\' :: c :: rest =>
    match shortEscape? c with
    | some e => stringTail (e :: read) rest
    | none => none
  | c :: rest => if c.toNat < 0x20 then none else stringTail (c :: read) rest
termination_by cs => cs.length

/-- The value of a list of decimal digits. -/
def digitsValue (digits : List Char) : Nat :=
  digits.foldl (fun n c => n * 10 + (c.toNat - 0x30)) 0

/-- The digits at the front and what follows them. -/
def splitDigits (cs : List Char) : List Char × List Char :=
  (cs.takeWhile Char.isDigit, cs.dropWhile Char.isDigit)

/-- The leaf for an integer literal. -/
def integerLeaf (negative : Bool) (n : Nat) : Json :=
  if negative then
    if 0 < n && n ≤ UInt64.size / 2 then .int (-n) else .real (Binary64.ofDecimal true n 0)
  else if n < UInt64.size then .int n
  else .real (Binary64.ofDecimal false n 0)

/-- An optional exponent: absent, or its value. -/
def exponent? (cs : List Char) : Option (Option Int × List Char) :=
  match cs with
  | c :: rest =>
    if c = 'e' || c = 'E' then
      let (negative, rest) :=
        match rest with
        | '-' :: r => (true, r)
        | '+' :: r => (false, r)
        | r => (false, r)
      let (digits, rest) := splitDigits rest
      if digits.isEmpty then none
      else
        let n : Int := digitsValue digits
        some (some (if negative then -n else n), rest)
    else some (none, cs)
  | [] => some (none, cs)

/-- A number. -/
def number? (cs : List Char) : Option (Json × List Char) :=
  let (negative, cs) :=
    match cs with
    | '-' :: rest => (true, rest)
    | _ => (false, cs)
  let (whole, cs) := splitDigits cs
  if whole.isEmpty || (whole.head? = some '0' && 1 < whole.length) then none
  else
    let (fraction, cs) :=
      match cs with
      | '.' :: rest => let (digits, rest) := splitDigits rest; (some digits, rest)
      | _ => (none, cs)
    if fraction = some [] then none
    else
      match exponent? cs with
      | none => none
      | some (none, rest) =>
        match fraction with
        | none => some (integerLeaf negative (digitsValue whole), rest)
        | some digits =>
          some (.real (Binary64.ofDecimal negative (digitsValue (whole ++ digits))
            (-(digits.length : Int))), rest)
      | some (some e, rest) =>
        let digits := fraction.getD []
        some (.real (Binary64.ofDecimal negative (digitsValue (whole ++ digits))
          (e - digits.length)), rest)

mutual

/-- A tree at the front of the text.  Each nested tree takes one unit of `fuel`. -/
def value? : Nat → List Char → Option (Json × List Char)
  | 0, _ => none
  | fuel + 1, cs =>
    match skipBlanks cs with
    | 'n' :: 'u' :: 'l' :: 'l' :: rest => some (.null, rest)
    | 't' :: 'r' :: 'u' :: 'e' :: rest => some (.bool true, rest)
    | 'f' :: 'a' :: 'l' :: 's' :: 'e' :: rest => some (.bool false, rest)
    | '"' :: rest => (stringTail [] rest).map fun (s, rest) => (.str s, rest)
    | '[' :: rest =>
      match skipBlanks rest with
      | ']' :: rest => some (.arr [], rest)
      | rest => (items? fuel [] rest).map fun (items, rest) => (.arr items, rest)
    | '\x7b' :: rest =>
      match skipBlanks rest with
      | '\x7d' :: rest => some (.obj [], rest)
      | rest => (members? fuel [] rest).map fun (members, rest) => (.obj members, rest)
    | cs => number? cs

/-- The items of an array up to its bracket; `read` holds those so far, last first. -/
def items? : Nat → List Json → List Char → Option (List Json × List Char)
  | 0, _, _ => none
  | fuel + 1, read, cs =>
    match value? fuel cs with
    | none => none
    | some (item, rest) =>
      match skipBlanks rest with
      | ',' :: rest => items? fuel (item :: read) rest
      | ']' :: rest => some ((item :: read).reverse, rest)
      | _ => none

/-- The members of an object up to its brace. -/
def members? : Nat → List (String × Json) → List Char →
    Option (List (String × Json) × List Char)
  | 0, _, _ => none
  | fuel + 1, read, cs =>
    match skipBlanks cs with
    | '"' :: rest =>
      match stringTail [] rest with
      | none => none
      | some (key, rest) =>
        match skipBlanks rest with
        | ':' :: rest =>
          match value? fuel rest with
          | none => none
          | some (value, rest) =>
            let read := setMember key value read
            match skipBlanks rest with
            | ',' :: rest => members? fuel read rest
            | '\x7d' :: rest => some (read, rest)
            | _ => none
        | _ => none
    | _ => none

end

/-- Reads a text that is one JSON tree. -/
def parse (text : String) : Option Json :=
  let cs := text.toList
  match value? (2 * cs.length + 2) cs with
  | some (tree, rest) => if (skipBlanks rest).isEmpty then some tree else none
  | none => none

end ScriptHost.Json
