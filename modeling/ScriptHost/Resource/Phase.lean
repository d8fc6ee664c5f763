/-!
# Phases of a resource
-/

namespace ScriptHost

/-- Where a resource is in its life.  A stopped one never runs again, and a failed start stops it
too. -/
inductive Phase where
  | uninitialized
  | compiling
  | running
  | stopped
deriving DecidableEq, Repr

def Phase.name : Phase → String
  | uninitialized => "Uninitialized"
  | compiling => "Compiling"
  | running => "Running"
  | stopped => "Stopped"

end ScriptHost
