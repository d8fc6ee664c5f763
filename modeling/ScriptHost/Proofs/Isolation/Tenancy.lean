import ScriptHost.Package.Basic

/-!
# Tenants of an interpreter

An interpreter that serves several resources keeps something of its state for each of them.  A
`Tenancy` says what that is: the part of the state that a resource can see, told from what it holds
of the interpreter in its `Hand`.  `Tenancy.Isolated` asks of every operation, of the interpreter
and of the packages, that its answer and what it does to the part of its user depend on that part
only, and that it leaves the parts of all others as they are.

Nothing else is asked of the state: contexts and files may be numbered by common counters, and a
module under way may be kept in a place that all resources use in turn.
-/

namespace ScriptHost

/-- What a resource holds of an interpreter. -/
structure Hand where
  /-- A module has been begun and is not built yet. -/
  drafting : Bool := false
  file? : Option FileHandle := none
  module? : Option ScriptModule := none
  context? : Option ContextHandle := none

namespace Hand

/-- What is held between two operations on a resource: no file and no module under way. -/
structure AtRest (hand : Hand) : Prop where
  notDrafting : hand.drafting = false
  noFile : hand.file? = none

/-- No context is in both hands. -/
def Apart (hand other : Hand) : Prop :=
  ∀ context, hand.context? = some context → other.context? ≠ some context

theorem Apart.symm {hand other : Hand} (h : hand.Apart other) : other.Apart hand :=
  fun context hother hhand => h context hhand hother

end Hand

/-- The state of an interpreter with the hand of the resource that uses it. -/
structure Seat (σ : Type) where
  engine : σ
  hand : Hand

variable {σ : Type}

/-- The parts that an interpreter's state has for the resources in the slots of a host. -/
structure Tenancy (σ : Type) where
  View : Type
  /-- What the resource in a slot sees of the state; nothing if the hand cannot be its own. -/
  view : String → Seat σ → Option View
  /-- The name of the resource in a slot. -/
  name : String → String
  /-- The package of the resource in a slot. -/
  package : String → Package σ
  /-- The functions that can be of the module of a resource. -/
  owns : String → FunctionHandle → Prop
  /-- The array types that can be of the module of a resource. -/
  ownsType : String → ArrayTypeHandle → Prop

namespace Tenancy

/-- The resource in a slot cannot tell two states apart. -/
def Alike (T : Tenancy σ) (slot : String) (s s' : Seat σ) : Prop :=
  ∃ part, T.view slot s = some part ∧ T.view slot s' = some part

/-- The hand can be that of the resource in a slot. -/
def Valid (T : Tenancy σ) (slot : String) (s : Seat σ) : Prop :=
  T.Alike slot s s

/-- No resource in another slot sees what has become of a state, and none of its contexts has come
into the hand. -/
def Unseen (T : Tenancy σ) (slot : String) (s t : Seat σ) : Prop :=
  ∀ other, other ≠ slot → ∀ hand : Hand, hand.AtRest → T.Valid other ⟨s.engine, hand⟩ →
    s.hand.Apart hand →
      t.hand.Apart hand ∧ T.view other ⟨t.engine, hand⟩ = T.view other ⟨s.engine, hand⟩

/-- Two states that a resource cannot tell apart have become two others that it cannot tell apart,
unseen by all others. -/
structure Moved (T : Tenancy σ) (slot : String) (s s' t t' : Seat σ) : Prop where
  alike : T.Alike slot t t'
  unseen : T.Unseen slot s t
  unseen' : T.Unseen slot s' t'

/-- An operation answers the same in two states and moves them, and `held` tells what is then in
the hand. -/
def Answers {α : Type} (T : Tenancy σ) (slot : String) (s s' : Seat σ) (held : α → Hand → Hand)
    (x x' : α × σ) : Prop :=
  x.1 = x'.1 ∧ T.Moved slot s s' ⟨x.2, held x.1 s.hand⟩ ⟨x'.2, held x'.1 s'.hand⟩

/-- All that can be looked up in a module is of the resource in a slot. -/
structure OwnsModule (T : Tenancy σ) (slot : String) (module : ScriptModule) : Prop where
  entrypoint : ∀ f, module.entrypoint? = some f → T.owns slot f
  function : ∀ declaration f, module.function? declaration = some f → T.owns slot f
  arrayType : ∀ declaration type, module.arrayType? declaration = some type →
    T.ownsType slot type

section Laws

variable {T : Tenancy σ} {slot : String} {s s' t t' u u' : Seat σ}

theorem Alike.symm (h : T.Alike slot s s') : T.Alike slot s' s := by
  rcases h with ⟨part, hs, hs'⟩
  exact ⟨part, hs', hs⟩

theorem Alike.trans (h : T.Alike slot s t) (h' : T.Alike slot t u) : T.Alike slot s u := by
  rcases h with ⟨part, hs, ht⟩
  rcases h' with ⟨part', ht', hu⟩
  cases Option.some.inj (ht.symm.trans ht')
  exact ⟨part, hs, hu⟩

theorem Alike.valid (h : T.Alike slot s s') : T.Valid slot s :=
  h.trans h.symm

/-- A state in which the view is the same is as good. -/
theorem Alike.of_view_eq (h : T.Alike slot s s') (heq : T.view slot t = T.view slot s) :
    T.Alike slot t s' := by
  rcases h with ⟨part, hs, hs'⟩
  exact ⟨part, heq.trans hs, hs'⟩

theorem Unseen.refl (s : Seat σ) : T.Unseen slot s s :=
  fun _ _ _ _ _ hapart => ⟨hapart, rfl⟩

theorem Unseen.trans (h : T.Unseen slot s t) (h' : T.Unseen slot t u) : T.Unseen slot s u := by
  intro other hother hand hrest hvalid hapart
  rcases h other hother hand hrest hvalid hapart with ⟨hapart', hview⟩
  -- the part of the other is as before, so the hand still can be its own
  have hvalid' : T.Valid other ⟨t.engine, hand⟩ := (hvalid.of_view_eq hview).valid
  rcases h' other hother hand hrest hvalid' hapart' with ⟨hapart'', hview'⟩
  exact ⟨hapart'', hview'.trans hview⟩

/-- Nothing need happen. -/
theorem Moved.refl (h : T.Alike slot s s') : T.Moved slot s s' s s' :=
  ⟨h, .refl s, .refl s'⟩

end Laws

end Tenancy

/-- Two compilations, begun with hands in two states, ask for the same sources and give the same
result, as long as the resource in a slot cannot tell the states apart. -/
inductive Compilation.Abreast (T : Tenancy σ) (slot : String) (hand hand' : Hand) :
    σ → σ → Compilation σ → Compilation σ → Prop
  | failed {engine engine' next next' : σ} (error : EngineError)
      (h : T.Moved slot ⟨engine, hand⟩ ⟨engine', hand'⟩
        ⟨next, { hand with drafting := false }⟩ ⟨next', { hand' with drafting := false }⟩) :
      Abreast T slot hand hand' engine engine' (.failed next error) (.failed next' error)
  | compiled {engine engine' next next' : σ} (module : ScriptModule)
      (howns : T.OwnsModule slot module)
      (h : T.Moved slot ⟨engine, hand⟩ ⟨engine', hand'⟩
        ⟨next, { hand with drafting := false, module? := some module }⟩
        ⟨next', { hand' with drafting := false, module? := some module }⟩) :
      Abreast T slot hand hand' engine engine' (.compiled next module) (.compiled next' module)
  | reported {engine engine' : σ} {next next' : Compilation σ} (report : Report)
      (h : Abreast T slot hand hand' engine engine' next next') :
      Abreast T slot hand hand' engine engine' (.reported report next) (.reported report next')
  | requested {engine engine' next next' : σ} (path sectionName : String)
      {resume resume' : σ → Except EngineError String → Compilation σ}
      (h : T.Moved slot ⟨engine, hand⟩ ⟨engine', hand'⟩ ⟨next, hand⟩ ⟨next', hand'⟩)
      (hresume : ∀ e e' source, T.Alike slot ⟨e, hand⟩ ⟨e', hand'⟩ →
        Abreast T slot hand hand' e e' (resume e source) (resume' e' source)) :
      Abreast T slot hand hand' engine engine' (.requested next path sectionName resume)
        (.requested next' path sectionName resume')

/-- Two script calls, begun with hands in two states, call the same host functions and end the same,
as long as the resource in a slot cannot tell the states apart. -/
inductive ScriptRun.Abreast (T : Tenancy σ) (slot : String) (hand hand' : Hand) :
    σ → σ → ScriptRun σ → ScriptRun σ → Prop
  | ended {engine engine' next next' : σ} (result : Except EngineError Outcome)
      (h : T.Moved slot ⟨engine, hand⟩ ⟨engine', hand'⟩ ⟨next, hand⟩ ⟨next', hand'⟩) :
      Abreast T slot hand hand' engine engine' (.ended next result) (.ended next' result)
  | reported {engine engine' : σ} {next next' : ScriptRun σ} (report : Report)
      (h : Abreast T slot hand hand' engine engine' next next') :
      Abreast T slot hand hand' engine engine' (.reported report next) (.reported report next')
  | waited {engine engine' : σ} {next next' : ScriptRun σ} (offset : Int)
      (h : Abreast T slot hand hand' engine engine' next next') :
      Abreast T slot hand hand' engine engine' (.waited offset next) (.waited offset next')
  | called {engine engine' next next' : σ} (function : HostFunction) (userData : UserData)
      (args : List HostArgument) {resume resume' : σ → HostResult → ScriptRun σ}
      (howns : ∀ f ∈ functionHandles args, T.owns slot f)
      (h : T.Moved slot ⟨engine, hand⟩ ⟨engine', hand'⟩ ⟨next, hand⟩ ⟨next', hand'⟩)
      (hresume : ∀ e e' result, T.Alike slot ⟨e, hand⟩ ⟨e', hand'⟩ →
        Abreast T slot hand hand' e e' (resume e result) (resume' e' result)) :
      Abreast T slot hand hand' engine engine' (.called next function userData args resume)
        (.called next' function userData args resume')

/-- Each operation, used by the resource in a slot, does the same in two states and moves them.  The
operations are those that the host uses, with what it holds and gives when it uses them. -/
structure Tenancy.ServesAlike (T : Tenancy σ) (interpreter : Interpreter σ) (slot : String)
    (s s' : Seat σ) : Prop where
  openFile (hfile : s.hand.file? = none) (hfile' : s'.hand.file? = none) (path : String) :
    ∃ file file' next next', (T.package slot).openFile s.engine path = (file, next) ∧
      (T.package slot).openFile s'.engine path = (file', next') ∧ file.isSome = file'.isSome ∧
      T.Moved slot s s' ⟨next, { s.hand with file? := file }⟩
        ⟨next', { s'.hand with file? := file' }⟩
  fileSize {file file' : FileHandle} (hfile : s.hand.file? = some file)
    (hfile' : s'.hand.file? = some file') :
    (T.package slot).fileSize s.engine file = (T.package slot).fileSize s'.engine file'
  readChunk {file file' : FileHandle} (hfile : s.hand.file? = some file)
    (hfile' : s'.hand.file? = some file') (room : Nat) :
    T.Answers slot s s' (fun _ hand => hand) ((T.package slot).readChunk s.engine file room)
      ((T.package slot).readChunk s'.engine file' room)
  closeFile {file file' : FileHandle} (hfile : s.hand.file? = some file)
    (hfile' : s'.hand.file? = some file') :
    T.Moved slot s s' ⟨(T.package slot).closeFile s.engine file, { s.hand with file? := none }⟩
      ⟨(T.package slot).closeFile s'.engine file', { s'.hand with file? := none }⟩
  startModule (hhand : s.hand = {}) (hhand' : s'.hand = {}) :
    T.Answers slot s s' (fun result hand => { hand with drafting := result.isOk })
      (interpreter.startModule s.engine (T.name slot))
      (interpreter.startModule s'.engine (T.name slot))
  addSection (hhand : s.hand = { drafting := true }) (hhand' : s'.hand = { drafting := true })
    (sectionName source : String) :
    T.Answers slot s s' (fun result hand => { hand with drafting := result.isOk })
      (interpreter.addSection s.engine sectionName source)
      (interpreter.addSection s'.engine sectionName source)
  build (hhand : s.hand = { drafting := true }) (hhand' : s'.hand = { drafting := true }) :
    Compilation.Abreast T slot s.hand s'.hand s.engine s'.engine (interpreter.build s.engine)
      (interpreter.build s'.engine)
  discardModule {module : ScriptModule} (hmodule : s.hand.module? = some module)
    (hmodule' : s'.hand.module? = some module) :
    T.Moved slot s s' ⟨interpreter.discardModule s.engine module, { s.hand with module? := none }⟩
      ⟨interpreter.discardModule s'.engine module, { s'.hand with module? := none }⟩
  createContext (hcontext : s.hand.context? = none) (hcontext' : s'.hand.context? = none) :
    T.Moved slot s s'
      ⟨(interpreter.createContext s.engine).2,
        { s.hand with context? := some (interpreter.createContext s.engine).1 }⟩
      ⟨(interpreter.createContext s'.engine).2,
        { s'.hand with context? := some (interpreter.createContext s'.engine).1 }⟩
  releaseContext {context context' : ContextHandle} (hcontext : s.hand.context? = some context)
    (hcontext' : s'.hand.context? = some context') :
    T.Moved slot s s'
      ⟨interpreter.releaseContext s.engine context, { s.hand with context? := none }⟩
      ⟨interpreter.releaseContext s'.engine context', { s'.hand with context? := none }⟩
  prepare {context context' : ContextHandle} (hcontext : s.hand.context? = some context)
    (hcontext' : s'.hand.context? = some context') {function : FunctionHandle}
    (howns : T.owns slot function) :
    T.Answers slot s s' (fun _ hand => hand) (interpreter.prepare s.engine context function)
      (interpreter.prepare s'.engine context' function)
  bindScalar {context context' : ContextHandle} (hcontext : s.hand.context? = some context)
    (hcontext' : s'.hand.context? = some context') (index : Nat) (value : Scalar) :
    T.Answers slot s s' (fun _ hand => hand)
      (interpreter.bindScalar s.engine context index value)
      (interpreter.bindScalar s'.engine context' index value)
  bindObject {context context' : ContextHandle} (hcontext : s.hand.context? = some context)
    (hcontext' : s'.hand.context? = some context') (index : Nat) (object : ObjectRef) :
    T.Answers slot s s' (fun _ hand => hand)
      (interpreter.bindObject s.engine context index object)
      (interpreter.bindObject s'.engine context' index object)
  execute {context context' : ContextHandle} (hcontext : s.hand.context? = some context)
    (hcontext' : s'.hand.context? = some context') :
    ScriptRun.Abreast T slot s.hand s'.hand s.engine s'.engine
      (interpreter.execute s.engine context) (interpreter.execute s'.engine context')
  returnByte {context context' : ContextHandle} (hcontext : s.hand.context? = some context)
    (hcontext' : s'.hand.context? = some context') :
    interpreter.returnByte s.engine context = interpreter.returnByte s'.engine context'
  createArray {type : ArrayTypeHandle} (howns : T.ownsType slot type) (items : List Value) :
    T.Answers slot s s' (fun _ hand => hand) (interpreter.createArray s.engine type items)
      (interpreter.createArray s'.engine type items)

/-- The resources of a tenancy share nothing: whatever a resource uses does the same in all states
that it cannot tell apart. -/
def Tenancy.Isolated (T : Tenancy σ) (interpreter : Interpreter σ) : Prop :=
  ∀ ⦃slot : String⦄ ⦃s s' : Seat σ⦄, T.Alike slot s s' → T.ServesAlike interpreter slot s s'

end ScriptHost
