import ScriptHost.HostFunction.Behaviour

/-!
# Calling scripts

The host calls a script function by preparing it, binding the arguments in order and executing it.
While it executes, the script's own calls of host functions act on the scene.
-/

namespace ScriptHost

variable {σ : Type}

/-- Follows a script call to its end, doing what it asks of the host.  Calls with the bindings as
user data act on the bindings of the scene, which are those of the resource that runs the script. -/
def ScriptRun.follow (interpreter : Interpreter σ) :
    ScriptRun σ → Scene σ → Except EngineError Outcome × Scene σ
  | .ended engine result, s => (result, s.setEngine engine)
  | .reported report next, s => next.follow interpreter (s.record (.reported report))
  | .waited offset next, s =>
    next.follow interpreter
      { s with machine := { s.machine with now := s.machine.now.shift offset } }
  | .called engine function userData args resume, s =>
    let (result, s) := function.runCounted interpreter userData args (s.setEngine engine)
    (resume s.machine.engine result).follow interpreter s

namespace Scene

/-- Binds one argument: a scalar by address, an object by handle. -/
def bindArgument (interpreter : Interpreter σ) (context : ContextHandle) (index : Nat)
    (argument : Argument) (s : Scene σ) : Except EngineError Unit × Scene σ :=
  let (result, engine) :=
    match argument with
    | .scalar value => interpreter.bindScalar s.machine.engine context index value
    | .object object => interpreter.bindObject s.machine.engine context index object
  (result, s.setEngine engine)

/-- Binds arguments from `index` on, up to the first failure. -/
def bindArguments (interpreter : Interpreter σ) (context : ContextHandle) :
    Nat → List Argument → Scene σ → Except EngineError Unit × Scene σ
  | _, [], s => (.ok (), s)
  | index, argument :: rest, s =>
    match s.bindArgument interpreter context index argument with
    | (.error cause, s) => (.error cause, s)
    | (.ok (), s) => bindArguments interpreter context (index + 1) rest s

/-- Calls a script function with arguments. -/
def call (interpreter : Interpreter σ) (context : ContextHandle) (cause : CallCause)
    (function : FunctionHandle) (args : List Argument) (s : Scene σ) :
    Except EngineError Outcome × Scene σ :=
  let s := s.record (.called cause function args)
  match interpreter.prepare s.machine.engine context function with
  | (.error e, engine) => (.error e, s.setEngine engine)
  | (.ok (), engine) =>
    match (s.setEngine engine).bindArguments interpreter context 0 args with
    | (.error e, s) => (.error e, s)
    | (.ok (), s) => (interpreter.execute s.machine.engine context).follow interpreter s

end Scene

end ScriptHost
