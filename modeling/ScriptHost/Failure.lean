import ScriptHost.Argument
import ScriptHost.EventType
import ScriptHost.Resource.Phase

/-!
# Failures

Every way in which an operation can fail, by cause, and the wording of each in one place.
-/

namespace ScriptHost

/-- The interpreter reports that one of its operations failed. -/
structure EngineError where
  operation : String
  reason : String
deriving DecidableEq, Repr

def EngineError.message (error : EngineError) : String :=
  error.operation ++ " failed: " ++ error.reason

/-- A registry refuses a descriptor. -/
inductive RegistryError where
  | duplicate (type : EventType)
deriving DecidableEq, Repr

def RegistryError.message : RegistryError → String
  | duplicate type => "event type " ++ type.name ++ " is already registered"

/-- What a host function expects at a place in its argument list. -/
inductive ExpectedArgument where
  | functionHandle
  | string
  | uint
deriving DecidableEq, Repr

def ExpectedArgument.name : ExpectedArgument → String
  | functionHandle => "function handle"
  | string => "string"
  | uint => "uint"

/-- A host function cannot do what a script asks. -/
inductive HostCallError where
  | noActiveResource
  | badArgument (index : Nat) (expected : ExpectedArgument)
deriving DecidableEq, Repr

def HostCallError.message : HostCallError → String
  | noActiveResource => "no resource is bound to the active context"
  | badArgument index expected =>
    "argument " ++ toString index ++ " is missing or not a " ++ expected.name

/-- Why a package file gives no source text. -/
inductive SourceFault where
  | notOpened
  | endedEarly
  | notUtf8
deriving DecidableEq, Repr

def SourceFault.message : SourceFault → String
  | notOpened => "file could not be opened"
  | endedEarly => "unexpected end of file"
  | notUtf8 => "file is not valid UTF-8"

/-- The stages of a compilation. -/
inductive CompilationStage where
  | start
  | section
  | build
deriving DecidableEq, Repr

def CompilationStage.name : CompilationStage → String
  | start => "Builder start"
  | .section => "Adding section"
  | build => "Compilation"

/-- A resource cannot be started. -/
inductive StartError where
  | readSource (path : String) (fault : SourceFault)
  | compilation (resource : String) (stage : CompilationStage) (cause : EngineError)
  | entrypointNotFound (resource : String)
  | prepare (resource : String) (cause : EngineError)
  | invalidState (resource : String) (phase : Phase)
deriving DecidableEq, Repr

def StartError.message : StartError → String
  | readSource path fault => "failed to read " ++ path ++ ": " ++ fault.message
  | compilation resource stage cause =>
    stage.name ++ " failed for resource " ++ resource ++ ": " ++ cause.message
  | entrypointNotFound resource => "the main entrypoint was not found in resource " ++ resource
  | prepare resource cause =>
    "failed to run the entrypoint of resource " ++ resource ++ ": " ++ cause.message
  | invalidState resource phase =>
    "resource " ++ resource ++ " cannot be started from state " ++ phase.name

/-- Marshaled arguments do not match the parameters that a descriptor declares. -/
inductive MarshalFault where
  | arity (type : EventType) (given declared : Nat)
  | misfit (type : EventType) (argument : Argument) (parameter : Parameter)
deriving Repr

def MarshalFault.message : MarshalFault → String
  | arity type given declared =>
    "assertion `left == right` failed: " ++ type.name ++ " marshaled " ++ toString given
      ++ " arguments for " ++ toString declared ++ " parameters\n  left: " ++ toString given
      ++ "\n right: " ++ toString declared
  | misfit type argument parameter =>
    type.name ++ " marshaled " ++ argument.diagnostic ++ " for parameter `"
      ++ parameter.declaration ++ "`"

end ScriptHost
