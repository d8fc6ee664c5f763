import ScriptHost.Json.Reader
import ScriptHost.Toml.Basic

/-!
# Tokens of TOML

Blanks, comments, keys, strings, numbers and moments.  Each reader takes the text that is left and
gives what it read and the rest, or nothing if the token is not there.
-/

namespace ScriptHost.Toml

/-! ## Blanks and comments -/

def isBlank (c : Char) : Bool := c = ' ' || c = '\t'

def skipBlanks (cs : List Char) : List Char := cs.dropWhile isBlank

/-- A character that may stand in a comment: a tab, or any that is no control. -/
def isPlain (c : Char) : Bool := c = '\t' || (0x20 ≤ c.toNat && c.toNat ≠ 0x7F)

/-- The rest after the end of a line. -/
def newline? : List Char → Option (List Char)
  | '\n' :: rest => some rest
  | '\r' :: '\n' :: rest => some rest
  | _ => none

/-- The rest after a comment, if there is one. -/
def skipComment : List Char → List Char
  | '#' :: rest => rest.dropWhile isPlain
  | cs => cs

/-- The rest after the end of a line, which may be the end of the text. -/
def lineEnd? : List Char → Option (List Char)
  | [] => some []
  | cs => newline? cs

/-- The rest after blanks, a comment and the end of the line. -/
def lineTrailing? (cs : List Char) : Option (List Char) :=
  lineEnd? (skipComment (skipBlanks cs))

/-- Drops blanks, ends of lines, and comments that end with their line. -/
def skipBlankLines : Nat → List Char → List Char
  | 0, cs => cs
  | fuel + 1, cs =>
    let cs := skipBlanks cs
    match cs with
    | '#' :: _ =>
      match newline? (skipComment cs) with
      | some rest => skipBlankLines fuel rest
      | none => cs
    | _ =>
      match newline? cs with
      | some rest => skipBlankLines fuel rest
      | none => cs

/-! ## Strings -/

/-- The character of a hexadecimal escape with `width` digits. -/
def hexEscape? (width : Nat) (cs : List Char) : Option (Char × List Char) := do
  let digits := cs.take width
  if digits.length < width then none
  else
    let n ← digits.foldlM (fun n c => do return n * 16 + (← Json.hexDigit? c)) 0
    if n < 0xD800 || (0xE000 ≤ n && n < 0x110000) then some (Char.ofNat n, cs.drop width) else none

/-- The character of an escape, after its backslash. -/
def escape? : List Char → Option (Char × List Char)
  | 'b' :: rest => some ('\x08', rest)
  | 't' :: rest => some ('\t', rest)
  | 'n' :: rest => some ('\n', rest)
  | 'f' :: rest => some ('\x0c', rest)
  | 'r' :: rest => some ('\r', rest)
  | '"' :: rest => some ('"', rest)
  | '\\' :: rest => some ('\\', rest)
  | 'u' :: rest => hexEscape? 4 rest
  | 'U' :: rest => hexEscape? 8 rest
  | _ => none

/-- Drops blanks and ends of lines. -/
def skipBreaks : Nat → List Char → List Char
  | 0, cs => cs
  | fuel + 1, cs =>
    let cs := skipBlanks cs
    match newline? cs with
    | some rest => skipBreaks fuel rest
    | none => cs

/-- The rest of a string with escapes after its opening quote; `read` holds the characters so far,
last first. -/
def basicTail : Nat → List Char → List Char → Option (String × List Char)
  | 0, _, _ => none
  | fuel + 1, read, cs =>
    match cs with
    | '"' :: rest => some (String.ofList read.reverse, rest)
    | '\\' :: rest => do
      let (c, rest) ← escape? rest
      basicTail fuel (c :: read) rest
    | c :: rest => if isPlain c then basicTail fuel (c :: read) rest else none
    | [] => none

/-- The rest of a string without escapes after its opening quote. -/
def literalTail (cs : List Char) : Option (String × List Char) :=
  let text := cs.takeWhile fun c => isPlain c && c ≠ '\''
  match cs.drop text.length with
  | '\'' :: rest => some (String.ofList text, rest)
  | _ => none

/-- The rest after three quotes and how many of up to two more stand before them: those belong to
the text. -/
def closingQuotes? (quote : Char) (cs : List Char) : Option (Nat × List Char) :=
  let count := (cs.takeWhile (· = quote)).length
  if 3 ≤ count then
    let own := min 2 (count - 3)
    some (own, cs.drop (own + 3))
  else none

/-- The rest of a string of several lines after its opening quotes. -/
def multilineTail (quote : Char) : Nat → List Char → List Char → Option (String × List Char)
  | 0, _, _ => none
  | fuel + 1, read, cs =>
    match closingQuotes? quote cs with
    | some (own, rest) => some (String.ofList (List.replicate own quote ++ read).reverse, rest)
    | none =>
      match cs with
      | [] => none
      | c :: rest =>
        if c = '\\' && quote = '"' then
          -- a backslash at the end of a line drops the break and the blanks after it
          match newline? (skipBlanks rest) with
          | some after => multilineTail quote fuel read (skipBreaks after.length after)
          | none => do
            let (c, rest) ← escape? rest
            multilineTail quote fuel (c :: read) rest
        else
          match newline? cs with
          | some rest => multilineTail quote fuel ('\n' :: read) rest
          | none => if isPlain c then multilineTail quote fuel (c :: read) rest else none

/-- The rest of a string of several lines; a break right after the opening quotes does not count. -/
def multiline (quote : Char) (cs : List Char) : Option (String × List Char) :=
  let cs := (newline? cs).getD cs
  multilineTail quote (cs.length + 1) [] cs

/-- A string in any of the four forms. -/
def string? : List Char → Option (String × List Char)
  | '"' :: '"' :: '"' :: rest => multiline '"' rest
  | '\'' :: '\'' :: '\'' :: rest => multiline '\'' rest
  | '"' :: rest => basicTail (rest.length + 1) [] rest
  | '\'' :: rest => literalTail rest
  | _ => none

/-! ## Keys -/

def isKeyChar (c : Char) : Bool := c.isAlphanum || c = '_' || c = '-'

/-- One part of a key: bare, or a string on one line. -/
def keyPart? : List Char → Option (String × List Char)
  | '"' :: rest => basicTail (rest.length + 1) [] rest
  | '\'' :: rest => literalTail rest
  | cs =>
    let text := cs.takeWhile isKeyChar
    if text.isEmpty then none else some (String.ofList text, cs.drop text.length)

/-- How many parts a key may have, and how deep values may be nested. -/
def nestingLimit : Nat := 79

/-- The parts of a key, which dots separate, with blanks around them; `fuel` bounds their number. -/
def keyParts? : Nat → List Char → Option (List String × List Char)
  | 0, _ => none
  | fuel + 1, cs => do
    let (part, rest) ← keyPart? (skipBlanks cs)
    match skipBlanks rest with
    | '.' :: rest => do
      let (parts, rest) ← keyParts? fuel rest
      some (part :: parts, rest)
    | rest => some ([part], rest)

/-- A key: the path before its last part, and that part. -/
def key? (cs : List Char) : Option ((List String × String) × List Char) := do
  let (parts, rest) ← keyParts? nestingLimit cs
  some ((parts.dropLast, parts.getLastD ""), rest)

/-! ## Numbers -/

/-- Digits of a base with single underscores between them; gives their values. -/
def digits? (digit? : Char → Option Nat) (cs : List Char) : Option (List Nat × List Char) :=
  match cs with
  | [] => none
  | c :: rest =>
    match digit? c with
    | none => none
    | some d => some (more [d] rest)
where
  more (read : List Nat) : List Char → List Nat × List Char
    | '_' :: c :: rest =>
      match digit? c with
      | some d => more (d :: read) rest
      | none => (read.reverse, '_' :: c :: rest)
    | c :: rest =>
      match digit? c with
      | some d => more (d :: read) rest
      | none => (read.reverse, c :: rest)
    | [] => (read.reverse, [])

def digitBelow? (base : Nat) (c : Char) : Option Nat := do
  let d ← Json.hexDigit? c
  if d < base then some d else none

def numberOf (base : Nat) (digits : List Nat) : Nat :=
  digits.foldl (fun n d => n * base + d) 0

/-- An optional sign. -/
def sign (cs : List Char) : Bool × List Char :=
  match cs with
  | '-' :: rest => (true, rest)
  | '+' :: rest => (false, rest)
  | _ => (false, cs)

/-- Decimal digits without a leading zero, after an optional sign. -/
def decimal? (cs : List Char) : Option ((Bool × List Nat) × List Char) :=
  let (negative, cs) := sign cs
  match cs with
  | '0' :: rest => some ((negative, [0]), rest)
  | _ => (digits? (digitBelow? 10) cs).map fun (digits, rest) => ((negative, digits), rest)

/-- An integer of a base, which 64 bits hold. -/
def basedInteger? (base : Nat) (cs : List Char) : Option (Node × List Char) := do
  let (digits, rest) ← digits? (digitBelow? base) cs
  let n := numberOf base digits
  if n ≤ Int64.maxValue.toInt then some (.integer n, rest) else none

def integer? : List Char → Option (Node × List Char)
  | '0' :: 'x' :: rest => basedInteger? 16 rest
  | '0' :: 'o' :: rest => basedInteger? 8 rest
  | '0' :: 'b' :: rest => basedInteger? 2 rest
  | cs => do
    let ((negative, digits), rest) ← decimal? cs
    let n : Int := numberOf 10 digits
    let n := if negative then -n else n
    if Int64.minValue.toInt ≤ n && n ≤ Int64.maxValue.toInt then some (.integer n, rest) else none

/-- An exponent with its sign. -/
def exponentPart? : List Char → Option (Int × List Char)
  | c :: rest =>
    if c = 'e' || c = 'E' then do
      let (negative, rest) := sign rest
      let (digits, rest) ← digits? (digitBelow? 10) rest
      let n : Int := numberOf 10 digits
      some (if negative then -n else n, rest)
    else none
  | [] => none

/-- A float: an integer part and a fraction, an exponent or both.  One past the greatest is none. -/
def float? (cs : List Char) : Option (Node × List Char) := do
  let ((negative, whole), rest) ← decimal? cs
  let (fraction, exponent, rest) ←
    match rest with
    | '.' :: rest => do
      let (fraction, rest) ← digits? (digitBelow? 10) rest
      match exponentPart? rest with
      | some (e, rest) => some (fraction, e, rest)
      | none => some (fraction, 0, rest)
    | _ => do
      let (e, rest) ← exponentPart? rest
      some ([], e, rest)
  let value := Number.Binary64.ofDecimal negative (numberOf 10 (whole ++ fraction))
    (exponent - fraction.length)
  if !negative && !value.isFinite then none else some (.float value, rest)

/-- Infinity, or what is no number. -/
def specialFloat? (cs : List Char) : Option (Node × List Char) :=
  let (negative, cs) := sign cs
  let infinity := Number.Format.double.infinity
  match cs with
  | 'i' :: 'n' :: 'f' :: rest => some (.float (.ofMagnitude negative infinity), rest)
  | 'n' :: 'a' :: 'n' :: rest =>
    some (.float (.ofMagnitude negative (infinity + Nat.pow 2 51)), rest)
  | _ => none

/-! ## Moments -/

/-- A number of exactly `width` digits between two bounds. -/
def field? (width least greatest : Nat) (cs : List Char) : Option (Nat × List Char) :=
  let digits := cs.take width
  if digits.length = width && digits.all Char.isDigit then
    let n := Json.digitsValue digits
    if least ≤ n && n ≤ greatest then some (n, cs.drop width) else none
  else none

def isLeapYear (year : Nat) : Bool :=
  year % 4 = 0 && (year % 100 ≠ 0 || year % 400 = 0)

def daysIn (year month : Nat) : Nat :=
  if month = 2 then (if isLeapYear year then 29 else 28)
  else if month = 4 || month = 6 || month = 9 || month = 11 then 30
  else 31

/-- The rest after a character. -/
def expect? (c : Char) : List Char → Option (List Char)
  | d :: rest => if d = c then some rest else none
  | [] => none

/-- The rest after a date. -/
def date? (cs : List Char) : Option (List Char) := do
  let (year, rest) ← field? 4 0 9999 cs
  let rest ← expect? '-' rest
  let (month, rest) ← field? 2 1 12 rest
  let rest ← expect? '-' rest
  let (_, rest) ← field? 2 1 (daysIn year month) rest
  some rest

/-- The rest after a time of day, which may have a fraction of the second. -/
def time? (cs : List Char) : Option (List Char) := do
  let (_, rest) ← field? 2 0 23 cs
  let rest ← expect? ':' rest
  let (_, rest) ← field? 2 0 59 rest
  let rest ← expect? ':' rest
  let (_, rest) ← field? 2 0 60 rest
  match rest with
  | '.' :: c :: more => if c.isDigit then some (more.dropWhile Char.isDigit) else some rest
  | _ => some rest

/-- The rest after an offset from universal time, if there is one. -/
def skipOffset (cs : List Char) : List Char :=
  let offset : Option (List Char) :=
    match cs with
    | c :: rest =>
      if c = 'Z' || c = 'z' then some rest
      else if c = '+' || c = '-' then do
        let (_, rest) ← field? 2 0 23 rest
        let rest ← expect? ':' rest
        let (_, rest) ← field? 2 0 59 rest
        some rest
      else none
    | [] => none
  offset.getD cs

/-- A date, a time, or a date with a time. -/
def moment? (cs : List Char) : Option (Node × List Char) := do
  let rest ←
    match date? cs with
    | some rest =>
      let withTime : Option (List Char) :=
        match rest with
        | c :: more =>
          if c = 'T' || c = 't' || c = ' ' then (time? more).map skipOffset else none
        | [] => none
      some (withTime.getD rest)
    | none => time? cs
  some (.moment (String.ofList (cs.take (cs.length - rest.length))), rest)

/-- A value that is not built from other values. -/
def scalar? (cs : List Char) : Option (Node × List Char) :=
  match cs with
  | 't' :: 'r' :: 'u' :: 'e' :: rest => some (.boolean true, rest)
  | 'f' :: 'a' :: 'l' :: 's' :: 'e' :: rest => some (.boolean false, rest)
  | _ =>
    ((string? cs).map fun (text, rest) => (.string text, rest))
      <|> moment? cs <|> specialFloat? cs <|> float? cs <|> integer? cs

end ScriptHost.Toml
