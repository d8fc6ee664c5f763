import ScriptHost.Failure
import ScriptHost.Handle
import ScriptHost.Locality

/-!
# Host functions

The functions that scripts call, as data, with what they are called with and what they give back.
-/

namespace ScriptHost

/-- A host function, told by what it does. -/
inductive HostFunction where
  /-- Schedules a callback; the delay is the argument at `delayIndex`, or none. -/
  | setTimer (delayIndex : Option Nat) (once : Bool)
  | clearTimer
  /-- Registers a handler of a custom event. -/
  | onCustom (locality : Locality)
  | createArray (kind : ArrayKind)
  | log
  /-- Registers a handler of a host event. -/
  | onEvent (type : EventType)
deriving DecidableEq, Repr

/-- An argument from a script.  With a function handle comes one reference, which the host function
owns. -/
inductive HostArgument where
  | function (handle : FunctionHandle)
  | scalar (value : Scalar)
  | object (object : ObjectRef)
deriving Repr

def HostArgument.diagnostic : HostArgument → String
  | function handle => "Function(" ++ Text.quoted handle.declaration ++ ")"
  | scalar value => "Primitive(" ++ value.diagnostic ++ ")"
  | object o => "Object(" ++ o.diagnostic ++ ")"

/-- What a host function gives back. -/
inductive HostReturn where
  | void
  | scalar (value : Scalar)
  | object (object : ObjectRef)
deriving Repr

/-- The answer to a call of a host function. -/
abbrev HostResult := Except HostCallError HostReturn

/-- The user data of the context that a script runs in: that of a resource, its bindings; of another
type; or none.

A resource sets the user data of its context when it creates it.  That is not a step of its own
here: a script always runs in the scene of the resource whose context it is, and `bindings` are the
bindings of this scene. -/
inductive UserData where
  | bindings
  | foreign
  | absent
deriving DecidableEq, Repr

/-! ## Reading arguments -/

/-- The function handle at a place in an argument list. -/
def functionAt (args : List HostArgument) (index : Nat) : Except HostCallError FunctionHandle :=
  match args[index]? with
  | some (.function handle) => .ok handle
  | _ => .error (.badArgument index .functionHandle)

/-- The string at a place in an argument list. -/
def stringAt (args : List HostArgument) (index : Nat) : Except HostCallError String :=
  match args[index]? with
  | some (.object (.string text)) => .ok text
  | _ => .error (.badArgument index .string)

/-- The unsigned 32-bit integer at a place in an argument list. -/
def uintAt (args : List HostArgument) (index : Nat) : Except HostCallError UInt32 :=
  match args[index]? with
  | some (.scalar (.uint32 n)) => .ok n
  | _ => .error (.badArgument index .uint)

/-- The function handles in an argument list, in order and with multiplicity. -/
def functionHandles (args : List HostArgument) : List FunctionHandle :=
  args.filterMap fun
    | .function handle => some handle
    | _ => none

end ScriptHost
