/-!
# Heights of patterns

A pattern is built up from elements.  Its height is the number of constructions that stand around
its innermost element: groups, repetitions, classes, operations on classes, and the joining of more
than one part.  A pattern may not be too high.
-/

namespace ScriptHost.Pattern

/-- The greatest height of a pattern. -/
def heightLimit : Nat := 250

/-- The height of a construction around parts of given heights. -/
def above (heights : List Nat) : Nat := heights.foldl max 0 + 1

/-- The height of parts taken together.  A single part stays what it is. -/
def joined : List Nat → Nat
  | [] => 0
  | [height] => height
  | heights => above heights

end ScriptHost.Pattern
