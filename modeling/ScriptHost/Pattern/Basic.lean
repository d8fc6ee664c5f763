import ScriptHost.Text.Words

/-!
# Modes of patterns

A pattern is a regular expression.  Flags inside it switch modes for what follows them.  In verbose
mode white space counts for nothing, nor does what stands between a number sign and the end of its
line.
-/

namespace ScriptHost.Pattern

/-- The modes that bear on what may be written.  Others bear only on what is matched. -/
structure Modes where
  ignoreCase : Bool := false
  /-- Whether a pattern is about characters, not about bytes. -/
  unicode : Bool := true
  verbose : Bool := false
deriving DecidableEq, Repr

namespace Modes

/-- Switches the mode of a flag. -/
def switch (on : Bool) (modes : Modes) : Char → Modes
  | 'i' => { modes with ignoreCase := on }
  | 'u' => { modes with unicode := on }
  | 'x' => { modes with verbose := on }
  | _ => modes

/-- Switches on the modes of the flags up to a dash and off those of the flags after it. -/
def switchAll (modes : Modes) (flags : List Char) : Modes :=
  (flags.dropWhile (· ≠ '-')).foldl (switch false)
    ((flags.takeWhile (· ≠ '-')).foldl (switch true) modes)

end Modes

def isFlag (c : Char) : Bool := "imsUuRx".toList.contains c

/-- Reads flags, each at most once and with at most one dash before some of them, and gives them
with the rest, which begins with the colon or the parenthesis after them. -/
def readFlags (seen : List Char) : List Char → Option (List Char × List Char)
  | [] => none
  | c :: rest =>
    if c = ':' || c = ')' then
      if seen.getLast? = some '-' then none else some (seen, c :: rest)
    else if (isFlag c || c = '-') && !seen.contains c then readFlags (seen ++ [c]) rest
    else none

/-- Drops white space and comments. -/
def dropComments (inComment : Bool) : List Char → List Char
  | [] => []
  | c :: rest =>
    if inComment then dropComments (c ≠ '\n') rest
    else if Text.whiteSpace.holds c then dropComments false rest
    else if c = '#' then dropComments true rest
    else c :: rest

/-- Drops what counts for nothing. -/
def skipBlanks (modes : Modes) (cs : List Char) : List Char :=
  if modes.verbose then dropComments false cs else cs

end ScriptHost.Pattern
