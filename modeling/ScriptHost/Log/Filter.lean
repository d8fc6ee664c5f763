import ScriptHost.Log.Directive

/-!
# Log filters

A filter is a list of directives, written with commas between them.  The most specific directive
that speaks of a record decides whether it passes; if none does, the record does not pass.
-/

namespace ScriptHost

/-- Which log records pass. -/
structure LogFilter where
  directives : List LogDirective
deriving DecidableEq, Repr

namespace LogFilter

/-- The filter that lets pass what is at least as important as a level. -/
def upTo (level : Level) : LogFilter := ⟨[{ threshold := .upTo level }]⟩

/-- Reads a filter.  Its directives are read in order, and the first that fails decides. -/
def parse (text : String) : Except LogFilterFault LogFilter := do
  let written := (text.splitOn ",").filter (!·.isEmpty)
  return ⟨← written.mapM fun directive => LogDirective.parse directive.toList⟩

/-- The filter of a setting.  If there is none or it is malformed, informational records pass. -/
def ofSetting : Option String → Except LogFilterFault LogFilter
  | none => .ok (upTo .info)
  | some text =>
    match parse text with
    | .error .malformed => .ok (upTo .info)
    | outcome => outcome

/-- The more specific of two directives, and the second if both are equally specific. -/
def preferred (chosen : Option LogDirective) (directive : LogDirective) : Option LogDirective :=
  match chosen with
  | some first => if directive.specificity < first.specificity then chosen else some directive
  | none => some directive

/-- The directive that decides on the records of a target. -/
def deciding? (filter : LogFilter) (target : String) : Option LogDirective :=
  (filter.directives.filter (·.speaksOf target)).foldl preferred none

/-- Whether records of a level and a target pass. -/
def admits (filter : LogFilter) (level : Level) (target : String) : Bool :=
  match filter.deciding? target with
  | some directive => directive.threshold.admits level
  | none => false

end LogFilter

end ScriptHost
