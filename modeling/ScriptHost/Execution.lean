/-!
# How script calls end
-/

namespace ScriptHost

/-- Where and why a script raised an exception; the call stack has the innermost frame first. -/
structure ScriptException where
  message : String
  function : String
  sectionName : String
  line : UInt32
  column : UInt32
  stack : List String
deriving DecidableEq, Repr

/-- The exception in words, followed by the call stack if it is wanted and there is one. -/
def ScriptException.report (exception : ScriptException) (withStack : Bool) : String :=
  let place :=
    exception.message ++ " (in " ++ exception.function ++ " at " ++ exception.sectionName ++ ":"
      ++ toString exception.line.toNat ++ "," ++ toString exception.column.toNat ++ ")"
  if withStack && !exception.stack.isEmpty then
    place ++ "\nStack trace:" ++ String.join (exception.stack.map ("\n    " ++ ·))
  else place

/-- How the execution of a prepared function ended. -/
inductive Outcome where
  | finished
  | suspended
  | aborted
  | exception (info : ScriptException)
deriving DecidableEq, Repr

end ScriptHost
