import ScriptHost.Resource.Basic

/-!
# Dispatching events

An event reaches the handlers that were registered for it when the dispatch began, in the order of
their registration.  The handlers of a host event get the same arguments, marshaled once; an engine
error ends the dispatch, and so does the first handler that finishes, if the callback returns a
value.  The handlers of a custom event are called one and all.
-/

namespace ScriptHost.Resource

variable {σ : Type}

/-- Calls the handlers of a host event in order and says whether the event stands. -/
def callHandlers (interpreter : Interpreter σ) (r : Resource σ) (context : ContextHandle)
    (descriptor : EventDescriptor) (args : List Argument) :
    List FunctionHandle → Scene σ → Bool × Scene σ
  | [], s => (true, s)
  | handler :: rest, s =>
    let type := descriptor.type
    match s.call interpreter context (.event type) handler args with
    | (.error e, s) => (true, s.log (.handlerFailed r.name type handler.declaration e))
    | (.ok .finished, s) =>
      if descriptor.returns.isSome then
        (interpreter.returnByte s.machine.engine context = 1, s)
      else callHandlers interpreter r context descriptor args rest s
    | (.ok (.exception info), s) =>
      callHandlers interpreter r context descriptor args rest
        (s.log (r.exceptionNotice type.name info))
    | (.ok .suspended, s) =>
      callHandlers interpreter r context descriptor args rest
        (s.log (.handlerUnfinished type handler.declaration .suspended))
    | (.ok .aborted, s) =>
      callHandlers interpreter r context descriptor args rest
        (s.log (.handlerUnfinished type handler.declaration .aborted))

/-- Calls the handlers of a custom event in order. -/
def callCustomHandlers (interpreter : Interpreter σ) (r : Resource σ) (context : ContextHandle)
    (name : String) (locality : Locality) (args : List Argument) :
    List FunctionHandle → Scene σ → Scene σ
  | [], s => s
  | handler :: rest, s =>
    let s :=
      match s.call interpreter context (.custom locality name) handler args with
      | (.error e, s) => s.log (.customHandlerFailed r.name name handler.declaration e)
      | (.ok (.exception info), s) => s.log (r.exceptionNotice name info)
      | (.ok _, s) => s
    callCustomHandlers interpreter r context name locality args rest s

/-- The arguments of custom handlers: the array of the event's values, and before it the sender of
a remote event. -/
def customArguments (locality : Locality) (sender : Option Entity) (array : ObjectRef) :
    List Argument :=
  match locality with
  | .here => [.object array]
  | .remote => [.object (.ofEntity? sender), .object array]

/-- Sends a custom event to its handlers. -/
def dispatchCustom (interpreter : Interpreter σ) (r : Resource σ) (name : String)
    (locality : Locality) (sender : Option Entity) (values : List Value) (m : Machine σ) :
    Resource σ × Machine σ :=
  if !r.isRunning then (r, m)
  else
    let handlers := r.bindings.custom.callbacksOf name locality
    if handlers.isEmpty then (r, m.log (.noCustomHandlers locality name))
    else
      let (array, s) := (r.scene m).createArray interpreter .any values
      match r.context with
      | none => (r.adopt s, s.machine)
      | some context =>
        let s := r.callCustomHandlers interpreter context name locality
          (customArguments locality sender array) handlers s
        (r.adopt s, s.machine)

/-- Sends a host event to the handlers of its category and says whether it stands; a script can veto
it by returning false.  Fails, without calling anything, when the arguments do not fit the callback.
-/
def dispatchHost (interpreter : Interpreter σ) (r : Resource σ) (event : HostEvent)
    (m : Machine σ) : Except MarshalFault Bool × Resource σ × Machine σ :=
  match r.registry.lookup? event.type with
  | none => (.ok true, r, m.log (.eventUnhandled event.type))
  | some descriptor =>
    let handlers := r.bindings.handlersOf event.type
    if handlers.isEmpty then (.ok true, r, m)
    else
      match descriptor.marshal interpreter event r.bindings.arrays m with
      | (.error fault, m) => (.error fault, r, m)
      | (.ok args, m) =>
        match r.context with
        | none => (.ok true, r, m)
        | some context =>
          let (stands, s) :=
            r.callHandlers interpreter context descriptor args handlers (r.scene m)
          (.ok stands, r.adopt s, s.machine)

/-- Sends an event to its handlers and says whether it stands.  Script events go to the custom
handlers, and always stand. -/
def onEvent (interpreter : Interpreter σ) (r : Resource σ) (event : HostEvent) (m : Machine σ) :
    Except MarshalFault Bool × Resource σ × Machine σ :=
  if !r.isRunning then (.ok true, r, m)
  else
    match event with
    | .localScriptEvent name values =>
      (.ok true, r.dispatchCustom interpreter name .here none values m)
    | .remoteScriptEvent name player values =>
      (.ok true, r.dispatchCustom interpreter name .remote (some player) values m)
    | _ => r.dispatchHost interpreter event m

end ScriptHost.Resource
