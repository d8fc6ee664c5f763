/-!
# Where custom events come from
-/

namespace ScriptHost

/-- A custom event is emitted on this side or sent by a remote player. -/
inductive Locality where
  | here
  | remote
deriving DecidableEq, Repr

def Locality.name : Locality → String
  | here => "Local"
  | remote => "Remote"

end ScriptHost
