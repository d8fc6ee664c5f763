import ScriptHost.ArrayTypes
import ScriptHost.CustomHandlers
import ScriptHost.Timer

/-!
# Bindings

Everything that the scripts of one resource have registered with the host.  A `Scene` joins the
bindings to the machine: it is what a host function called by one of these scripts acts on.  Each
handler, custom handler and timer owns one reference to its callback, and each resolved array type
one reference to itself; `Scene.releaseAll` gives all of them back.
-/

namespace ScriptHost

structure Bindings where
  resource : String
  handlers : List (EventType × FunctionHandle) := []
  custom : CustomHandlers := {}
  timers : TimerTable := {}
  arrays : ArrayTypes := {}
deriving DecidableEq, Repr

namespace Bindings

/-- The bindings of a resource whose scripts have registered nothing. -/
def new (resource : String) : Bindings := { resource }

/-- The handlers of a host event, in order of registration and with multiplicity. -/
def handlersOf (bindings : Bindings) (type : EventType) : List FunctionHandle :=
  (bindings.handlers.filter fun (t, _) => t = type).map (·.2)

/-- The callbacks that the bindings own a reference to, with multiplicity. -/
def callbacks (bindings : Bindings) : List FunctionHandle :=
  bindings.handlers.map (·.2) ++ bindings.custom.callbacks ++ bindings.timers.callbacks

end Bindings

/-- What a running script acts on: the machine and the bindings of its resource. -/
structure Scene (σ : Type) where
  machine : Machine σ
  bindings : Bindings

namespace Scene

variable {σ : Type}

/-- Records what happened. -/
def record (s : Scene σ) (entry : Entry) : Scene σ :=
  { s with machine := s.machine.record entry }

/-- Logs a notice. -/
def log (s : Scene σ) (notice : Notice) : Scene σ :=
  { s with machine := s.machine.log notice }

/-- Gives back one reference to each of the functions. -/
def releaseFunctions (s : Scene σ) (functions : List FunctionHandle) : Scene σ :=
  { s with machine := s.machine.releaseFunctions functions }

/-- The interpreter moves on. -/
def setEngine (s : Scene σ) (engine : σ) : Scene σ :=
  { s with machine := { s.machine with engine } }

@[simp] theorem bindings_record (s : Scene σ) (entry : Entry) :
    (s.record entry).bindings = s.bindings := rfl

@[simp] theorem journal_record (s : Scene σ) (entry : Entry) :
    (s.record entry).machine.journal = s.machine.journal.push entry := rfl

@[simp] theorem bindings_log (s : Scene σ) (notice : Notice) :
    (s.log notice).bindings = s.bindings := rfl

@[simp] theorem journal_log (s : Scene σ) (notice : Notice) :
    (s.log notice).machine.journal = s.machine.journal.push (.logged notice) := rfl

@[simp] theorem bindings_releaseFunctions (s : Scene σ) (functions : List FunctionHandle) :
    (s.releaseFunctions functions).bindings = s.bindings := rfl

@[simp] theorem journal_releaseFunctions (s : Scene σ) (functions : List FunctionHandle) :
    (s.releaseFunctions functions).machine.journal
      = s.machine.journal.append (functions.map .released) := rfl

@[simp] theorem bindings_setEngine (s : Scene σ) (engine : σ) :
    (s.setEngine engine).bindings = s.bindings := rfl

@[simp] theorem journal_setEngine (s : Scene σ) (engine : σ) :
    (s.setEngine engine).machine.journal = s.machine.journal := rfl

/-- Registers a handler of a host event; it takes over a reference to the callback. -/
def registerHandler (s : Scene σ) (type : EventType) (callback : FunctionHandle) : Scene σ :=
  let s := s.log (.eventSubscribed s.bindings.resource type callback.declaration)
  { s with
    bindings := { s.bindings with handlers := s.bindings.handlers ++ [(type, callback)] } }

@[simp] theorem bindings_registerHandler (s : Scene σ) (type : EventType)
    (callback : FunctionHandle) :
    (s.registerHandler type callback).bindings
      = { s.bindings with handlers := s.bindings.handlers ++ [(type, callback)] } := rfl

@[simp] theorem journal_registerHandler (s : Scene σ) (type : EventType)
    (callback : FunctionHandle) :
    (s.registerHandler type callback).machine.journal
      = s.machine.journal.push
        (.logged (.eventSubscribed s.bindings.resource type callback.declaration)) := rfl

/-- Registers a handler of a custom event; it takes over a reference to the callback. -/
def registerCustomHandler (s : Scene σ) (name : String) (callback : FunctionHandle)
    (locality : Locality) : Scene σ :=
  let s := s.log (.customSubscribed s.bindings.resource locality name)
  { s with
    bindings := { s.bindings with custom := s.bindings.custom.register name callback locality } }

@[simp] theorem bindings_registerCustomHandler (s : Scene σ) (name : String)
    (callback : FunctionHandle) (locality : Locality) :
    (s.registerCustomHandler name callback locality).bindings
      = { s.bindings with custom := s.bindings.custom.register name callback locality } := rfl

@[simp] theorem journal_registerCustomHandler (s : Scene σ) (name : String)
    (callback : FunctionHandle) (locality : Locality) :
    (s.registerCustomHandler name callback locality).machine.journal
      = s.machine.journal.push
        (.logged (.customSubscribed s.bindings.resource locality name)) := rfl

/-- Schedules a callback after a delay in milliseconds and gives the timer's id; the timer takes
over a reference to the callback. -/
def createTimer (s : Scene σ) (delay : UInt32) (callback : FunctionHandle) (once : Bool) :
    UInt32 × Scene σ :=
  let (id, displaced, timers) :=
    s.bindings.timers.create (milliseconds delay.toNat) callback once s.machine.now
  (id, { s with bindings := { s.bindings with timers } }.releaseFunctions displaced.toList)

@[simp] theorem bindings_createTimer (s : Scene σ) (delay : UInt32) (callback : FunctionHandle)
    (once : Bool) :
    (s.createTimer delay callback once).2.bindings
      = { s.bindings with
          timers := (s.bindings.timers.create (milliseconds delay.toNat) callback once
            s.machine.now).2.2 } := rfl

@[simp] theorem journal_createTimer (s : Scene σ) (delay : UInt32) (callback : FunctionHandle)
    (once : Bool) :
    (s.createTimer delay callback once).2.machine.journal
      = s.machine.journal.append ((s.bindings.timers.create (milliseconds delay.toNat) callback
          once s.machine.now).2.1.toList.map .released) := rfl

/-- Queues a timer for removal. -/
def removeTimer (s : Scene σ) (id : UInt32) : Scene σ :=
  { s with bindings := { s.bindings with timers := s.bindings.timers.remove id } }

@[simp] theorem bindings_removeTimer (s : Scene σ) (id : UInt32) :
    (s.removeTimer id).bindings
      = { s.bindings with timers := s.bindings.timers.remove id } := rfl

@[simp] theorem machine_removeTimer (s : Scene σ) (id : UInt32) :
    (s.removeTimer id).machine = s.machine := rfl

/-- Drops the timers queued for removal. -/
def flushTimers (s : Scene σ) : Scene σ :=
  let (callbacks, timers) := s.bindings.timers.flush
  { s with bindings := { s.bindings with timers } }.releaseFunctions callbacks

@[simp] theorem bindings_flushTimers (s : Scene σ) :
    s.flushTimers.bindings = { s.bindings with timers := s.bindings.timers.flush.2 } := rfl

@[simp] theorem journal_flushTimers (s : Scene σ) :
    s.flushTimers.machine.journal
      = s.machine.journal.append (s.bindings.timers.flush.1.map .released) := rfl

/-- Asks whether a timer is due now. -/
def pollTimer (s : Scene σ) (id : UInt32) : TimerPoll × Scene σ :=
  let (answer, timers) := s.bindings.timers.poll id s.machine.now
  (answer, { s with bindings := { s.bindings with timers } })

@[simp] theorem bindings_pollTimer (s : Scene σ) (id : UInt32) :
    (s.pollTimer id).2.bindings
      = { s.bindings with timers := (s.bindings.timers.poll id s.machine.now).2 } := rfl

@[simp] theorem machine_pollTimer (s : Scene σ) (id : UInt32) :
    (s.pollTimer id).2.machine = s.machine := rfl

/-- Resolves the array types in a module, in place of those held before. -/
def pinArrayTypes (s : Scene σ) (module : ScriptModule) : Scene σ :=
  let (arrays, machine) := ArrayTypes.resolve module s.machine
  { machine := s.bindings.arrays.release machine, bindings := { s.bindings with arrays } }

@[simp] theorem bindings_pinArrayTypes (s : Scene σ) (module : ScriptModule) :
    (s.pinArrayTypes module).bindings
      = { s.bindings with arrays := ArrayTypes.ofModule module } := rfl

@[simp] theorem journal_pinArrayTypes (s : Scene σ) (module : ScriptModule) :
    (s.pinArrayTypes module).machine.journal
      = (ArrayTypes.resolve module s.machine).2.journal.append
        (s.bindings.arrays.held.map .typeReleased) := rfl

/-- Creates a script array, or gives a null handle. -/
def createArray (s : Scene σ) (interpreter : Interpreter σ) (kind : ArrayKind)
    (items : List Value) : ObjectRef × Scene σ :=
  let (array, machine) := s.bindings.arrays.create interpreter kind items s.machine
  (array, { s with machine })

/-- Gives back every reference that the bindings hold: to callbacks first, to array types last. -/
def releaseAll (s : Scene σ) : Scene σ :=
  let b := s.bindings
  let machine := s.machine.releaseFunctions b.callbacks
  { machine := b.arrays.release machine
    bindings :=
      { b with handlers := [], custom := {}, timers := b.timers.clear.2, arrays := {} } }

@[simp] theorem bindings_releaseAll (s : Scene σ) :
    s.releaseAll.bindings
      = { s.bindings with
          handlers := [], custom := {}, timers := s.bindings.timers.clear.2, arrays := {} } := rfl

@[simp] theorem journal_releaseAll (s : Scene σ) :
    s.releaseAll.machine.journal
      = (s.machine.journal.append (s.bindings.callbacks.map .released)).append
        (s.bindings.arrays.held.map .typeReleased) := rfl

end Scene

end ScriptHost
