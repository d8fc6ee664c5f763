import ScriptHost.Clock
import ScriptHost.Journal

/-!
# The interpreter, seen from the host

Compiling and running scripts is the work of a collaborator with a state `σ` of its own.  The host
calls it through the operations of `Interpreter`.  Two of them call back: a compilation asks for the
sources of includes, and a running script calls host functions.  They answer with a tree, a
`Compilation` or a `ScriptRun`, whose nodes are the moments at which the host acts, so a script can
be any finite sequence of host calls that depends on their results.
-/

namespace ScriptHost

/-- A compiled module: what can be looked up in it. -/
structure ScriptModule where
  name : String
  /-- The entry point that the script's metadata names. -/
  entrypoint? : Option FunctionHandle
  /-- The function with a declaration. -/
  function? : String → Option FunctionHandle
  /-- The array type with a declaration. -/
  arrayType? : String → Option ArrayTypeHandle

/-- A compilation in progress. -/
inductive Compilation (σ : Type) where
  | failed (engine : σ) (error : EngineError)
  | compiled (engine : σ) (module : ScriptModule)
  | reported (report : Report) (next : Compilation σ)
  /-- The section `sectionName` includes `path`; `resume` gets the source. -/
  | requested (engine : σ) (path sectionName : String)
      (resume : σ → Except EngineError String → Compilation σ)

/-- A script call in progress. -/
inductive ScriptRun (σ : Type) where
  | ended (engine : σ) (result : Except EngineError Outcome)
  | reported (report : Report) (next : ScriptRun σ)
  /-- The clock moves by a number of nanoseconds. -/
  | waited (offset : Int) (next : ScriptRun σ)
  /-- The script calls a host function; `resume` gets the answer. -/
  | called (engine : σ) (function : HostFunction) (userData : UserData) (args : List HostArgument)
      (resume : σ → HostResult → ScriptRun σ)

/-- Where declarations that scripts compile against are registered. -/
structure Registrar (σ : Type) where
  registerCallbackType : σ → String → Except EngineError Unit × σ
  registerFunction : σ → String → HostFunction → Except EngineError Unit × σ

/-- The operations of an interpreter.  Each gets its state and gives the next one. -/
structure Interpreter (σ : Type) extends Registrar σ where
  /-- Begins a module with a name. -/
  startModule : σ → String → Except EngineError Unit × σ
  /-- Adds a source text under a section name to the module begun last. -/
  addSection : σ → String → String → Except EngineError Unit × σ
  build : σ → Compilation σ
  discardModule : σ → ScriptModule → σ
  createContext : σ → ContextHandle × σ
  releaseContext : σ → ContextHandle → σ
  /-- Makes a context ready to run a function. -/
  prepare : σ → ContextHandle → FunctionHandle → Except EngineError Unit × σ
  /-- Binds an argument of the prepared function by address. -/
  bindScalar : σ → ContextHandle → Nat → Scalar → Except EngineError Unit × σ
  /-- Binds an argument of the prepared function by handle. -/
  bindObject : σ → ContextHandle → Nat → ObjectRef → Except EngineError Unit × σ
  execute : σ → ContextHandle → ScriptRun σ
  /-- What the function that finished last returned, when it returns a byte or a truth value. -/
  returnByte : σ → ContextHandle → UInt8
  createArray : σ → ArrayTypeHandle → List Value → Except EngineError ObjectRef × σ

/-- What the host and its interpreter work on together: the interpreter's state, the clock and the
journal. -/
structure Machine (σ : Type) where
  engine : σ
  now : Instant
  journal : Journal

namespace Machine

variable {σ : Type}

/-- Records what happened. -/
def record (m : Machine σ) (entry : Entry) : Machine σ :=
  { m with journal := m.journal.push entry }

/-- Records several things, in order. -/
def recordAll (m : Machine σ) (entries : List Entry) : Machine σ :=
  { m with journal := m.journal.append entries }

/-- Logs a notice. -/
def log (m : Machine σ) (notice : Notice) : Machine σ :=
  m.record (.logged notice)

/-- Logs several notices, in order. -/
def logAll (m : Machine σ) (notices : List Notice) : Machine σ :=
  m.recordAll (notices.map .logged)

/-- Gives back one reference to each of the functions. -/
def releaseFunctions (m : Machine σ) (functions : List FunctionHandle) : Machine σ :=
  m.recordAll (functions.map .released)

@[simp] theorem engine_record (m : Machine σ) (entry : Entry) :
    (m.record entry).engine = m.engine := rfl

@[simp] theorem now_record (m : Machine σ) (entry : Entry) : (m.record entry).now = m.now := rfl

@[simp] theorem journal_record (m : Machine σ) (entry : Entry) :
    (m.record entry).journal = m.journal.push entry := rfl

@[simp] theorem engine_recordAll (m : Machine σ) (entries : List Entry) :
    (m.recordAll entries).engine = m.engine := rfl

@[simp] theorem now_recordAll (m : Machine σ) (entries : List Entry) :
    (m.recordAll entries).now = m.now := rfl

@[simp] theorem journal_recordAll (m : Machine σ) (entries : List Entry) :
    (m.recordAll entries).journal = m.journal.append entries := rfl

end Machine

end ScriptHost
