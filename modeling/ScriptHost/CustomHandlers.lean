import ScriptHost.Handle
import ScriptHost.Locality

/-!
# Handlers of custom events

Scripts name their own events.  Handlers are kept in the order of their registration, which is the
order in which they are called.
-/

namespace ScriptHost

/-- A function registered for the custom events of one name and one locality. -/
structure CustomHandler where
  name : String
  locality : Locality
  callback : FunctionHandle
deriving DecidableEq, Repr

/-- The custom handlers of one resource. -/
structure CustomHandlers where
  entries : List CustomHandler := []
deriving DecidableEq, Repr

namespace CustomHandlers

def register (handlers : CustomHandlers) (name : String) (callback : FunctionHandle)
    (locality : Locality) : CustomHandlers :=
  ⟨handlers.entries ++ [⟨name, locality, callback⟩]⟩

/-- The handlers of an event, in order of registration and with multiplicity. -/
def callbacksOf (handlers : CustomHandlers) (name : String) (locality : Locality) :
    List FunctionHandle :=
  (handlers.entries.filter fun h => h.name = name && h.locality = locality).map (·.callback)

/-- The callbacks of every handler. -/
def callbacks (handlers : CustomHandlers) : List FunctionHandle :=
  handlers.entries.map (·.callback)

/-- The number of handlers of all events. -/
def count (handlers : CustomHandlers) : Nat :=
  handlers.entries.length

end CustomHandlers

end ScriptHost
