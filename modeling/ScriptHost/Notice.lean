import ScriptHost.Execution
import ScriptHost.Failure
import ScriptHost.Locality

/-!
# Log notices

What the library logs, by what happened.  `Notice.level`, `Notice.target` and `Notice.message` say
how each is written.
-/

namespace ScriptHost

/-- How important a log line is. -/
inductive Level where
  | error
  | warn
  | info
  | debug
  | trace
deriving DecidableEq, Repr

def Level.name : Level → String
  | error => "ERROR"
  | warn => "WARN"
  | info => "INFO"
  | debug => "DEBUG"
  | trace => "TRACE"

/-- A script call that was not carried through. -/
inductive Interruption where
  | suspended
  | aborted
deriving DecidableEq, Repr

def Interruption.name : Interruption → String
  | suspended => "Suspended"
  | aborted => "Aborted"

inductive Notice where
  | registeringHostFunctions
  | exposingEvent (type : EventType)
  | exposedEvents (count : Nat)
  | docsWritten (path : String)
  | docsNotWritten (directory fault : String)
  | creatingResource (resource : String)
  | startingResource (resource : String)
  | startedResource (resource : String)
  | startFailed (resource : String) (cause : StartError)
  | compiledResource (resource : String)
  | including (path sectionName : String)
  | entrypointNotFound (resource : String)
  | entrypointUnfinished (resource : String) (how : Interruption)
  | stoppingResource (resource : String)
  | stopFailed (resource : String) (cause : EngineError)
  | exceptionRaised (resource activity report : String)
  | typeNotFound (declaration module : String)
  | arrayTypeUnresolved (kind : ArrayKind)
  | arrayNotCreated (kind : ArrayKind) (cause : EngineError)
  | eventSubscribed (resource : String) (type : EventType) (callback : String)
  | customSubscribed (resource : String) (locality : Locality) (name : String)
  | noCustomHandlers (locality : Locality) (name : String)
  | customHandlerFailed (resource name handler : String) (cause : EngineError)
  | eventUnhandled (type : EventType)
  | handlerFailed (resource : String) (type : EventType) (handler : String) (cause : EngineError)
  | handlerUnfinished (type : EventType) (handler : String) (how : Interruption)
  | timerFailed (resource : String) (id : UInt32) (cause : EngineError)
  | scriptMessage (resource : Option String) (text : String)
  | configLoaded (path : String)
  | configDefaulted (fault : String)
  | configSaved (path : String)
deriving Repr

namespace Notice

def level : Notice → Level
  | startFailed .. | entrypointNotFound .. | stopFailed .. | exceptionRaised ..
  | customHandlerFailed .. | handlerFailed .. | timerFailed .. => .error
  | docsNotWritten .. | entrypointUnfinished .. | typeNotFound .. | arrayTypeUnresolved ..
  | arrayNotCreated .. | handlerUnfinished .. | configDefaulted .. => .warn
  | exposedEvents .. | docsWritten .. | startingResource .. | startedResource ..
  | stoppingResource .. | scriptMessage .. | configLoaded .. | configSaved .. => .info
  | registeringHostFunctions | exposingEvent .. | creatingResource .. | compiledResource ..
  | including .. | eventSubscribed .. | customSubscribed .. | noCustomHandlers ..
  | eventUnhandled .. => .debug

/-- What the line is attributed to: scripts for what they log themselves, else the host side. -/
def target : Notice → String
  | scriptMessage .. => "script"
  | _ => "scripting"

def message : Notice → String
  | registeringHostFunctions => "Registering host functions"
  | exposingEvent type => "Exposing event " ++ type.name
  | exposedEvents count => "Exposed " ++ toString count ++ " event types to scripts"
  | docsWritten path => "Wrote script docs to " ++ path
  | docsNotWritten directory fault => "Failed to write docs to " ++ directory ++ ": " ++ fault
  | creatingResource resource => "Creating resource " ++ resource
  | startingResource resource => "Starting resource " ++ resource
  | startedResource resource => "Started resource " ++ resource
  | startFailed resource cause => "Failed to start resource " ++ resource ++ ": " ++ cause.message
  | compiledResource resource => "Compiled resource " ++ resource
  | including path sectionName => "Including " ++ path ++ " from " ++ sectionName
  | entrypointNotFound resource =>
    "The main entrypoint was not found in resource " ++ resource
  | entrypointUnfinished resource how =>
    "Entrypoint of resource " ++ resource ++ " did not finish: " ++ how.name
  | stoppingResource resource => "Stopping resource " ++ resource
  | stopFailed resource cause =>
    "Failed to call Stop in resource " ++ resource ++ ": " ++ cause.message
  | exceptionRaised resource activity report =>
    "Script exception in resource " ++ resource ++ " during " ++ activity ++ ": " ++ report
  | typeNotFound declaration module =>
    "Type " ++ declaration ++ " not found in module " ++ module
  | arrayTypeUnresolved kind => "Cannot create " ++ kind.declaration ++ ": type is not resolved"
  | arrayNotCreated kind cause =>
    "Failed to create " ++ kind.declaration ++ ": " ++ cause.message
  | eventSubscribed resource type callback =>
    "Resource " ++ resource ++ " subscribed to " ++ type.name ++ " with " ++ callback
  | customSubscribed resource locality name =>
    "Resource " ++ resource ++ " subscribed to " ++ locality.name ++ " event " ++ name
  | noCustomHandlers locality name => "No handlers for " ++ locality.name ++ " event " ++ name
  | customHandlerFailed resource name handler cause =>
    "Failed to call handler " ++ handler ++ " for event " ++ name ++ " in resource " ++ resource
      ++ ": " ++ cause.message
  | eventUnhandled type => "Unhandled event " ++ type.name
  | handlerFailed resource type handler cause =>
    "Failed to call handler " ++ handler ++ " for " ++ type.name ++ " in resource " ++ resource
      ++ ": " ++ cause.message
  | handlerUnfinished type handler how =>
    "Handler " ++ handler ++ " for " ++ type.name ++ " did not finish: " ++ how.name
  | timerFailed resource id cause =>
    "Failed to run timer " ++ toString id.toNat ++ " in resource " ++ resource ++ ": "
      ++ cause.message
  | scriptMessage (some resource) text => "[" ++ resource ++ "] " ++ text
  | scriptMessage none text => text
  | configLoaded path => "Loaded config from " ++ path
  | configDefaulted fault => "Using default config: " ++ fault
  | configSaved path => "Saved config to " ++ path

end Notice

end ScriptHost
