import ScriptHost.Pattern.CharClass
import ScriptHost.Text.Alphanumeric

/-!
# Well-formed patterns

`Pattern.isWellFormed` says of a text whether it is a pattern that can be matched in one pass.  So
there are no references back and no looking around, and repetition is not counted.  Nor may it be
too high.
-/

namespace ScriptHost.Pattern

/-- What was read of a group, or of the whole pattern. -/
structure OpenGroup where
  modes : Modes := {}
  /-- The heights of the alternatives that are complete. -/
  alternatives : List Nat := []
  /-- The heights of the parts of the alternative being read, last first. -/
  parts : List Nat := []
deriving Repr

/-- The height of what stands in the group. -/
def OpenGroup.height (group : OpenGroup) : Nat :=
  joined (joined group.parts :: group.alternatives)

/-- How far the reading of a pattern has come. -/
structure Progress where
  current : OpenGroup := {}
  /-- The groups around it, innermost first. -/
  outer : List OpenGroup := []
  /-- Whether the last part is one that a repetition can apply to. -/
  repeatable : Bool := false
  /-- The names of groups. -/
  names : List (List Char) := []
deriving Repr

namespace Progress

def modes (progress : Progress) : Modes := progress.current.modes

/-- Begins a group in which other modes hold. -/
def enter (progress : Progress) (modes : Modes) : Progress :=
  { progress with
    current := { modes }
    outer := progress.current :: progress.outer
    repeatable := false }

/-- Adds a part that can be repeated. -/
def add (progress : Progress) (height : Nat) : Progress :=
  { progress with
    current := { progress.current with parts := height :: progress.current.parts }
    repeatable := true }

/-- Ends a group. -/
def leave? (progress : Progress) : Option Progress :=
  match progress.outer with
  | [] => none
  | next :: outer =>
    some ({ progress with current := next, outer }.add (above [progress.current.height]))

/-- Ends an alternative. -/
def divide (progress : Progress) : Progress :=
  { progress with
    current := { progress.current with
      alternatives := joined progress.current.parts :: progress.current.alternatives
      parts := [] }
    repeatable := false }

/-- Switches modes.  The flags are a part that cannot be repeated. -/
def switch (progress : Progress) (modes : Modes) : Progress :=
  { progress with
    current := { progress.current with modes, parts := 0 :: progress.current.parts }
    repeatable := false }

/-- Repeats the last part. -/
def repeatLast? (progress : Progress) : Option Progress :=
  match progress.repeatable, progress.current.parts with
  | true, height :: parts =>
    some ({ progress with current := { progress.current with parts } }.add (above [height]))
  | _, _ => none

end Progress

/-- Whether a text can be the name of a group. -/
def isGroupName : List Char → Bool
  | [] => false
  | c :: rest =>
    (c = '_' || Text.isAlphabetic c)
      && rest.all fun c => "_.[]".toList.contains c || Text.isAlphanumeric c

/-- Reads a group's name and begins the group. -/
def readNamedGroup? (progress : Progress) (cs : List Char) : Option (Progress × List Char) :=
  let name := cs.takeWhile (· ≠ '>')
  match cs.drop name.length with
  | '>' :: rest =>
    if isGroupName name && !progress.names.contains name then
      some ({ progress.enter progress.modes with names := name :: progress.names }, rest)
    else none
  | _ => none

/-- Reads what follows an opening parenthesis: the beginning of a group, or flags by themselves. -/
def readGroupStart? (progress : Progress) (cs : List Char) : Option (Progress × List Char) :=
  match skipBlanks progress.modes cs with
  | '?' :: 'P' :: '<' :: rest => readNamedGroup? progress rest
  | '?' :: '<' :: '=' :: _ => none
  | '?' :: '<' :: '!' :: _ => none
  | '?' :: '<' :: rest => readNamedGroup? progress rest
  | '?' :: rest =>
    match readFlags [] rest with
    | some (flags, ':' :: rest) => some (progress.enter (progress.modes.switchAll flags), rest)
    | some (flags, _ :: rest) =>
      if flags.isEmpty then none
      else some (progress.switch (progress.modes.switchAll flags), rest)
    | _ => none
  | rest => some (progress.enter progress.modes, rest)

/-- Reads the next part of a pattern, which begins with a given character. -/
def readPart? (progress : Progress) (c : Char) (rest : List Char) :
    Option (Progress × List Char) :=
  let lone (element : Element) (rest : List Char) : Option (Progress × List Char) :=
    if element.fits progress.modes then some (progress.add 0, rest) else none
  if c = '(' then readGroupStart? progress rest
  else if c = ')' then progress.leave?.map fun progress => (progress, rest)
  else if c = '|' then some (progress.divide, rest)
  else if c = '[' then
    (readClass? progress.modes rest).map fun (height, rest) => (progress.add height, rest)
  else if c = '?' || c = '*' || c = '+' then
    progress.repeatLast?.map fun progress =>
      (progress, if rest.head? = some '?' then rest.drop 1 else rest)
  else if c = '\x7b' then none
  else if c = '\\' then
    (readEscaped progress.modes rest).bind fun (element, rest) => lone element rest
  else if c = '.' then if progress.modes.unicode then some (progress.add 0, rest) else none
  else if c = '^' || c = '$' then lone .edge rest
  else lone (.character c false) rest

/-- Reads a pattern to its end.  Each part takes a character at least; `fuel` bounds their
number. -/
def readsToEnd : Nat → Progress → List Char → Bool
  | 0, _, _ => false
  | fuel + 1, progress, cs =>
    match skipBlanks progress.modes cs with
    | [] => progress.outer.isEmpty && progress.current.height ≤ heightLimit
    | c :: rest =>
      match readPart? progress c rest with
      | some (progress, rest) => readsToEnd fuel progress rest
      | none => false

/-- Whether a text is a pattern. -/
def isWellFormed (text : List Char) : Bool :=
  readsToEnd (text.length + 1) {} text

end ScriptHost.Pattern
