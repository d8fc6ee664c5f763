import ScriptHost.Resource.Basic

/-!
# Starting and stopping

A start reads the main file, compiles it with its includes, makes a context, runs the entry point
and resolves the array types; the first of these stages that fails decides the error, and everything
made before it is given up.  An exception in the entry point is no failure.  A stop runs the stop
function, if there is one, and gives everything up.
-/

namespace ScriptHost

variable {σ : Type}

/-- Follows a compilation to its end, with includes read through a package. -/
def Compilation.follow (package : Package σ) :
    Compilation σ → Machine σ → Except EngineError ScriptModule × Machine σ
  | .failed engine error, m => (.error error, { m with engine })
  | .compiled engine module, m =>
    (.ok module, { m with engine }.record (.moduleBuilt module.name))
  | .reported report next, m => next.follow package (m.record (.reported report))
  | .requested engine path sectionName resume, m =>
    let (source, m) := package.includedSource path sectionName { m with engine }
    (resume m.engine source).follow package m

namespace Resource

/-- Compiles a source text under the name of the main file. -/
def compile (interpreter : Interpreter σ) (r : Resource σ) (source : String) (m : Machine σ) :
    Except StartError ScriptModule × Machine σ :=
  match interpreter.startModule m.engine r.name with
  | (.error e, engine) => (.error (.compilation r.name .start e), { m with engine })
  | (.ok (), engine) =>
    match interpreter.addSection engine r.main source with
    | (.error e, engine) => (.error (.compilation r.name .section e), { m with engine })
    | (.ok (), engine) =>
      match (interpreter.build engine).follow r.package { m with engine } with
      | (.error e, m) => (.error (.compilation r.name .build e), m)
      | (.ok module, m) => (.ok module, m.log (.compiledResource r.name))

/-- Logs how the entry point ended, unless it finished. -/
def logEntrypoint (r : Resource σ) (outcome : Outcome) (s : Scene σ) : Scene σ :=
  match outcome with
  | .finished => s
  | .exception info => s.log (r.exceptionNotice "start" info)
  | .suspended => s.log (.entrypointUnfinished r.name .suspended)
  | .aborted => s.log (.entrypointUnfinished r.name .aborted)

/-- Runs the entry point of the module in the context and then resolves the array types. -/
def enterModule (interpreter : Interpreter σ) (r : Resource σ) (module : ScriptModule)
    (context : ContextHandle) (m : Machine σ) : Except StartError Unit × Resource σ × Machine σ :=
  match module.entrypoint?.or (module.function? startDeclaration) with
  | none => (.error (.entrypointNotFound r.name), r, m.log (.entrypointNotFound r.name))
  | some entrypoint =>
    match (r.scene m).call interpreter context .entrypoint entrypoint [] with
    | (.error e, s) => (.error (.prepare r.name e), r.adopt s, s.machine)
    | (.ok outcome, s) =>
      let s := (r.logEntrypoint outcome s).pinArrayTypes module
      (.ok (), r.adopt s, s.machine)

/-- Carries out the stages of a start. -/
def startModule (interpreter : Interpreter σ) (r : Resource σ) (m : Machine σ) :
    Except StartError Unit × Resource σ × Machine σ :=
  match r.package.readSource r.main m with
  | (.error fault, m) => (.error (.readSource r.main fault), r, m)
  | (.ok source, m) =>
    match r.compile interpreter source m with
    | (.error e, m) => (.error e, r, m)
    | (.ok module, m) =>
      let (context, engine) := interpreter.createContext m.engine
      let m := { m with engine }.record .contextCreated
      { r with module := some module, context := some context }.enterModule interpreter module
        context m

/-- Discards the module, releases the context and gives back every reference that the bindings
hold. -/
def teardown (interpreter : Interpreter σ) (r : Resource σ) (m : Machine σ) :
    Resource σ × Machine σ :=
  let m :=
    match r.module with
    | some module =>
      { m with engine := interpreter.discardModule m.engine module }.record
        (.moduleDiscarded module.name)
    | none => m
  let m :=
    match r.context with
    | some context =>
      { m with engine := interpreter.releaseContext m.engine context }.record .contextReleased
    | none => m
  let s := (r.scene m).releaseAll
  ({ r.adopt s with module := none, context := none }, s.machine)

/-- Starts a resource that has not been started, or says why that is not possible. -/
def tryStart (interpreter : Interpreter σ) (r : Resource σ) (m : Machine σ) :
    Except StartError Unit × Resource σ × Machine σ :=
  if r.phase ≠ .uninitialized then (.error (.invalidState r.name r.phase), r, m)
  else
    match { r with phase := .compiling }.startModule interpreter
      (m.log (.startingResource r.name)) with
    | (.ok (), r, m) => (.ok (), { r with phase := .running }, m.log (.startedResource r.name))
    | (.error e, r, m) =>
      let (r, m) := r.teardown interpreter m
      (.error e, { r with phase := .stopped }, m)

/-- Starts a resource, logging a failure. -/
def start (interpreter : Interpreter σ) (r : Resource σ) (m : Machine σ) :
    Bool × Resource σ × Machine σ :=
  match r.tryStart interpreter m with
  | (.ok (), r, m) => (true, r, m)
  | (.error e, r, m) => (false, r, m.log (.startFailed r.name e))

/-- Calls the stop function of the module, if there is one. -/
def callStop (interpreter : Interpreter σ) (r : Resource σ) (module : ScriptModule)
    (context : ContextHandle) (s : Scene σ) : Scene σ :=
  match module.function? stopDeclaration with
  | none => s
  | some function =>
    match s.call interpreter context .stop function [] with
    | (.error e, s) => s.log (.stopFailed r.name e)
    | (.ok (.exception info), s) => s.log (r.exceptionNotice "stop" info)
    | (.ok _, s) => s

/-- Calls the stop function of a resource that holds a module and a context. -/
def leaveModule (interpreter : Interpreter σ) (r : Resource σ) (m : Machine σ) :
    Resource σ × Machine σ :=
  match r.module, r.context with
  | some module, some context =>
    let s := r.callStop interpreter module context (r.scene (m.log (.stoppingResource r.name)))
    (r.adopt s, s.machine)
  | _, _ => (r, m)

/-- Stops a resource, whatever its phase. -/
def stop (interpreter : Interpreter σ) (r : Resource σ) (m : Machine σ) :
    Bool × Resource σ × Machine σ :=
  let (r, m) := r.leaveModule interpreter m
  let (r, m) := r.teardown interpreter m
  (true, { r with phase := .stopped }, m)

/-- The end of a resource: it is stopped if it holds a module or a context, and whatever its
bindings still hold is given back. -/
def drop (interpreter : Interpreter σ) (r : Resource σ) (m : Machine σ) : Machine σ :=
  let (r, m) :=
    if r.module.isSome || r.context.isSome then (r.stop interpreter m).2 else (r, m)
  (r.scene m).releaseAll.machine

end Resource

end ScriptHost
