import ScriptHost.Pattern.Element
import ScriptHost.Pattern.Height

/-!
# Classes of characters

A class stands in brackets: characters, ranges, shorthands, named classes and classes within it,
with the operations of sets between them.  Since a class in bytes may not match a part of a
character, it cannot be negated there.
-/

namespace ScriptHost.Pattern

/-- The names of the ASCII classes. -/
def asciiClassNames : List String :=
  ["alnum", "alpha", "ascii", "blank", "cntrl", "digit", "graph", "lower", "print", "punct",
    "space", "upper", "word", "xdigit"]

/-- Reads a named class from behind its first bracket: whether it is negated, and the rest. -/
def readNamed? : List Char → Option (Bool × List Char)
  | ':' :: rest =>
    let negated := rest.head? = some '^'
    let rest := if negated then rest.drop 1 else rest
    let name := rest.takeWhile (· ≠ ':')
    match rest.drop name.length with
    | ':' :: ']' :: rest =>
      if asciiClassNames.contains (String.ofList name) then some (negated, rest) else none
    | _ => none
  | _ => none

/-- A class whose bracket is open. -/
structure OpenClass where
  /-- The height of what stands before the last operation, if there is one. -/
  left : Option Nat := none
  /-- The heights of the items after it. -/
  items : List Nat := []
deriving Repr

namespace OpenClass

/-- The height of what stands in the bracket. -/
def height (current : OpenClass) : Nat :=
  match current.left with
  | none => joined current.items
  | some left => above [left, joined current.items]

/-- Adds an item. -/
def add (current : OpenClass) (height : Nat) : OpenClass :=
  { current with items := height :: current.items }

/-- Goes past an operation. -/
def operate (current : OpenClass) : OpenClass := { left := some current.height }

end OpenClass

/-- How far a class has come. -/
inductive ClassStage where
  /-- Nothing was read: dashes and a closing bracket mean themselves. -/
  | fresh
  /-- Only dashes were read. -/
  | dashes
  | inside
deriving DecidableEq, Repr

/-- What comes after a dash that may be the dash of a range. -/
def afterDash? (modes : Modes) (cs : List Char) : Option Char :=
  if modes.verbose then
    match cs.dropWhile Text.whiteSpace.holds with
    | '#' :: rest => (rest.dropWhile Text.whiteSpace.holds).head?
    | rest => rest.head?
  else cs.head?

/-- Reads a range, or an element by itself. -/
def readRange? (modes : Modes) (cs : List Char) : Option (List Char) := do
  let (first, rest) ← readElement modes cs
  match skipBlanks modes rest with
  | [] => none
  | '-' :: more =>
    if afterDash? modes more = some ']' || afterDash? modes more = some '-' then
      if first.fitsClass modes then some ('-' :: more) else none
    else
      match first, ← readElement modes (skipBlanks modes more) with
      | .character low _, (.character high byNumber, rest) =>
        if low ≤ high && first.fitsClass modes
            && (Element.character high byNumber).fitsClass modes then some rest
        else none
      | _, _ => none
  | rest => if first.fitsClass modes then some rest else none

/-- Whether a class with or without a caret can be. -/
def mayNegate (modes : Modes) (negated : Bool) : Bool := modes.unicode || !negated

/-- Reads the beginning of a class from behind its bracket. -/
def openClass? (modes : Modes) (cs : List Char) : Option (List Char) :=
  match skipBlanks modes cs with
  | '^' :: rest => if mayNegate modes true then some rest else none
  | rest => some rest

/-- Reads the rest of a class with classes around it and gives the height of the outermost and what
follows it.  Each step reads a character at least; `fuel` bounds their number. -/
def readClassRest? (modes : Modes) :
    Nat → OpenClass → List OpenClass → ClassStage → List Char → Option (Nat × List Char)
  | 0, _, _, _, _ => none
  | fuel + 1, current, outer, stage, cs =>
    match skipBlanks modes cs with
    | [] => none
    | c :: rest =>
      let plain := (Element.character c false).fitsClass modes
      if c = '-' && stage ≠ .inside then
        if plain then readClassRest? modes fuel (current.add 0) outer .dashes rest else none
      else if c = ']' && stage = .fresh then
        if plain then readClassRest? modes fuel (current.add 0) outer .inside rest else none
      else if c = ']' then
        let height := above [current.height]
        match outer with
        | [] => some (height, rest)
        | next :: outer => readClassRest? modes fuel (next.add height) outer .inside rest
      else if c = '[' then
        match readNamed? rest with
        | some (negated, rest) =>
          -- a named class is made of characters
          if mayNegate modes negated && (Element.character 'a' false).fitsClass modes then
            readClassRest? modes fuel (current.add 0) outer .inside rest
          else none
        | none =>
          (openClass? modes rest).bind (readClassRest? modes fuel {} (current :: outer) .fresh)
      else if (c = '&' || c = '-' || c = '~') && rest.head? = some c then
        readClassRest? modes fuel current.operate outer .inside (rest.drop 1)
      else
        (readRange? modes (c :: rest)).bind
          (readClassRest? modes fuel (current.add 0) outer .inside)

/-- Reads a class from behind its bracket and gives its height and what follows it. -/
def readClass? (modes : Modes) (cs : List Char) : Option (Nat × List Char) :=
  (openClass? modes cs).bind (readClassRest? modes (cs.length + 1) {} [] .fresh)

end ScriptHost.Pattern
