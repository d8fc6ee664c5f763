import ScriptHost.Proofs.Scene.Accounts

/-!
# Script calls, one by one

A `ScriptCall` is a call of a script function together with what came of it.  `CarriedOut` says how
the interpreter is used for it, and `CallsBetween` puts calls in a row, with what the host does
between one and the next.
-/

namespace ScriptHost

variable {σ : Type}

/-! ## Binding arguments -/

namespace Interpreter

/-- Arguments are bound at the places from an index on, scalars by address and objects by
handle. -/
inductive Binds (interpreter : Interpreter σ) (context : ContextHandle) :
    Nat → List Argument → σ → σ → Prop
  | done (index : Nat) (engine : σ) : Binds interpreter context index [] engine engine
  | scalar {index : Nat} {value : Scalar} {rest : List Argument} {engine engine' engine'' : σ}
      (h : interpreter.bindScalar engine context index value = (.ok (), engine'))
      (hrest : Binds interpreter context (index + 1) rest engine' engine'') :
      Binds interpreter context index (.scalar value :: rest) engine engine''
  | object {index : Nat} {object : ObjectRef} {rest : List Argument} {engine engine' engine'' : σ}
      (h : interpreter.bindObject engine context index object = (.ok (), engine'))
      (hrest : Binds interpreter context (index + 1) rest engine' engine'') :
      Binds interpreter context index (.object object :: rest) engine engine''

/-- Arguments are bound until one is refused. -/
inductive FailsToBind (interpreter : Interpreter σ) (context : ContextHandle) :
    Nat → List Argument → σ → EngineError → σ → Prop
  | scalar {index : Nat} {value : Scalar} {rest : List Argument} {engine engine' : σ}
      {e : EngineError}
      (h : interpreter.bindScalar engine context index value = (.error e, engine')) :
      FailsToBind interpreter context index (.scalar value :: rest) engine e engine'
  | object {index : Nat} {object : ObjectRef} {rest : List Argument} {engine engine' : σ}
      {e : EngineError}
      (h : interpreter.bindObject engine context index object = (.error e, engine')) :
      FailsToBind interpreter context index (.object object :: rest) engine e engine'
  | later {index : Nat} {argument : Argument} {rest : List Argument}
      {engine engine' engine'' : σ} {e : EngineError}
      (hfirst : Binds interpreter context index [argument] engine engine')
      (h : FailsToBind interpreter context (index + 1) rest engine' e engine'') :
      FailsToBind interpreter context index (argument :: rest) engine e engine''

end Interpreter

variable {interpreter : Interpreter σ} {context : ContextHandle}

/-- Binding arguments in a scene is binding them in the interpreter. -/
theorem Scene.bindArguments_binds (index : Nat) (args : List Argument) (s : Scene σ) :
    (∃ engine, interpreter.Binds context index args s.machine.engine engine ∧
        s.bindArguments interpreter context index args = (.ok (), s.setEngine engine)) ∨
      ∃ e engine, interpreter.FailsToBind context index args s.machine.engine e engine ∧
        s.bindArguments interpreter context index args = (.error e, s.setEngine engine) := by
  induction args generalizing index s with
  | nil => exact Or.inl ⟨_, .done _ _, rfl⟩
  | cons argument rest ih =>
    cases argument with
    | scalar value =>
      rcases hbind : interpreter.bindScalar s.machine.engine context index value
        with ⟨e | _, engine⟩
      · exact Or.inr ⟨e, engine, .scalar hbind, by simp [bindArguments, bindArgument, hbind]⟩
      · have hrest : s.bindArguments interpreter context index (.scalar value :: rest)
            = (s.setEngine engine).bindArguments interpreter context (index + 1) rest := by
          simp [bindArguments, bindArgument, hbind]
        rw [hrest]
        rcases ih (index + 1) (s.setEngine engine) with ⟨engine', h, heq⟩ | ⟨e, engine', h, heq⟩
        · exact Or.inl ⟨engine', .scalar hbind h, heq⟩
        · exact Or.inr ⟨e, engine', .later (.scalar hbind (.done _ _)) h, heq⟩
    | object object =>
      rcases hbind : interpreter.bindObject s.machine.engine context index object
        with ⟨e | _, engine⟩
      · exact Or.inr ⟨e, engine, .object hbind, by simp [bindArguments, bindArgument, hbind]⟩
      · have hrest : s.bindArguments interpreter context index (.object object :: rest)
            = (s.setEngine engine).bindArguments interpreter context (index + 1) rest := by
          simp [bindArguments, bindArgument, hbind]
        rw [hrest]
        rcases ih (index + 1) (s.setEngine engine) with ⟨engine', h, heq⟩ | ⟨e, engine', h, heq⟩
        · exact Or.inl ⟨engine', .object hbind h, heq⟩
        · exact Or.inr ⟨e, engine', .later (.object hbind (.done _ _)) h, heq⟩

/-! ## Which calls the journal shows -/

/-- The host calls the function on an occasion for which scripts have registered it. -/
def CallCause.IsCallback : CallCause → Prop
  | event _ | custom .. | timer _ => True
  | entrypoint | stop => False

/-- The entries that a running script adds to the journal. -/
def Entry.ByScript : Entry → Prop
  | retained _ | released _ | served .. | reported _ => True
  | logged notice => notice.isStarted = false
  | _ => False

section Moves

variable {allowed : HostFunction → List HostArgument → Prop} {α : Type} {view : Entry → Option α}
  {s t : Scene σ}

/-- A view that shows nothing of scripts does not show that one is running. -/
theorem ScriptMove.viewed_eq (hview : ∀ e : Entry, e.ByScript → view e = none)
    (h : ScriptMove interpreter allowed s t) :
    t.machine.journal.viewed view = s.machine.journal.viewed view := by
  cases h with
  | work engine => rfl
  | report report =>
    rw [Scene.journal_record, Journal.viewed_push, hview (.reported report) trivial]
    exact List.append_nil _
  | wait offset => rfl
  | hostCall function userData args hallowed =>
    rcases function.runCounted_effect interpreter userData args s with ⟨result, t, heffect, heq⟩
    rw [heq, heffect.viewed_eq userData view (fun f => hview (.retained f) trivial)
      (fun f => hview (.released f) trivial) fun notice hnotice => hview (.logged notice) hnotice,
      hview (.served function userData args result) trivial]
    exact List.append_nil _

theorem ScriptMoves.viewed_eq (hview : ∀ e : Entry, e.ByScript → view e = none)
    (h : ScriptMoves interpreter allowed s t) :
    t.machine.journal.viewed view = s.machine.journal.viewed view := by
  induction h with
  | refl => rfl
  | tail _ hmove ih => rw [hmove.viewed_eq hview, ih]

/-- While a script runs, the host calls no other. -/
theorem ScriptMoves.calls_eq (h : ScriptMoves interpreter allowed s t) :
    t.machine.journal.calls = s.machine.journal.calls :=
  h.viewed_eq fun e he => by cases e <;> first | rfl | exact he.elim

end Moves

/-! ## One call -/

/-- A call of a script function, with the scenes before and after it. -/
structure ScriptCall (σ : Type) where
  cause : CallCause
  function : FunctionHandle
  args : List Argument
  start : Scene σ
  result : Except EngineError Outcome
  finish : Scene σ

namespace ScriptCall

/-- The call is one that the host makes. -/
def Made (interpreter : Interpreter σ) (context : ContextHandle) (c : ScriptCall σ) : Prop :=
  c.start.call interpreter context c.cause c.function c.args = (c.result, c.finish)

/-- What the journal tells of a call. -/
def summary (c : ScriptCall σ) : CallCause × FunctionHandle × List Argument :=
  (c.cause, c.function, c.args)

/-- The scene in which the interpreter is asked to prepare the function. -/
def announced (c : ScriptCall σ) : Scene σ :=
  c.start.record (.called c.cause c.function c.args)

/-- The function is prepared, the arguments are bound and the function is executed; the first engine
error among these ends the call. -/
inductive CarriedOut (interpreter : Interpreter σ) (context : ContextHandle)
    (c : ScriptCall σ) : Prop
  | unprepared {e : EngineError} {engine : σ}
      (hprepare : interpreter.prepare c.start.machine.engine context c.function
        = (.error e, engine))
      (hresult : c.result = .error e) (hfinish : c.finish = c.announced.setEngine engine)
  | unbound {e : EngineError} {engine engine' : σ}
      (hprepare : interpreter.prepare c.start.machine.engine context c.function
        = (.ok (), engine))
      (hbind : interpreter.FailsToBind context 0 c.args engine e engine')
      (hresult : c.result = .error e) (hfinish : c.finish = c.announced.setEngine engine')
  | executed {engine engine' : σ}
      (hprepare : interpreter.prepare c.start.machine.engine context c.function
        = (.ok (), engine))
      (hbind : interpreter.Binds context 0 c.args engine engine')
      (hrun : (interpreter.execute engine' context).follow interpreter
        (c.announced.setEngine engine') = (c.result, c.finish))

theorem Made.carriedOut {c : ScriptCall σ} (h : c.Made interpreter context) :
    c.CarriedOut interpreter context := by
  unfold Made at h
  rcases hprepare : interpreter.prepare c.start.machine.engine context c.function
    with ⟨e | _, engine⟩
  · rw [Scene.call_unprepared hprepare, Prod.mk.injEq] at h
    exact .unprepared hprepare h.1.symm h.2.symm
  · rcases (c.announced.setEngine engine).bindArguments_binds 0 c.args
      with ⟨engine', hbinds, heq⟩ | ⟨e, engine', hfails, heq⟩
    · rw [Scene.call_executed hprepare heq] at h
      exact .executed hprepare hbinds h
    · rw [Scene.call_unbound hprepare heq, Prod.mk.injEq] at h
      exact .unbound hprepare hfails h.1.symm h.2.symm

/-- What happens during a callback takes nothing away. -/
theorem During.continues {allowed : HostFunction → List HostArgument → Prop}
    (hasks : interpreter.AsksOnly allowed) {c : ScriptCall σ} (hcause : c.cause.IsCallback)
    {t : Scene σ}
    (h : Scene.During interpreter context c.cause c.function c.args c.start t) :
    c.start.Continues allowed t := by
  -- the announcement of a callback is no milestone, as one of the entry point would be
  have hannounced : c.start.Continues allowed c.announced := by
    refine .of_plain rfl ((Journal.Grows.refl _).push ⟨trivial, ?_⟩)
    revert hcause
    cases c.cause <;> simp [CallCause.IsCallback, Entry.milestone?]
  exact hannounced.trans (.of_moves (h.moves hasks))

theorem Made.during {c : ScriptCall σ} (h : c.Made interpreter context) :
    Scene.During interpreter context c.cause c.function c.args c.start c.finish := by
  have hfinish : (c.start.call interpreter context c.cause c.function c.args).2 = c.finish := by
    rw [h]
  rw [← hfinish]
  exact .returned

theorem Made.continues {allowed : HostFunction → List HostArgument → Prop}
    (hasks : interpreter.AsksOnly allowed) {c : ScriptCall σ} (h : c.Made interpreter context)
    (hcause : c.cause.IsCallback) : c.start.Continues allowed c.finish :=
  During.continues hasks hcause h.during

/-- The journal shows the call itself and no other. -/
theorem Made.calls_eq {c : ScriptCall σ} (h : c.Made interpreter context) :
    c.finish.machine.journal.calls = c.start.machine.journal.calls ++ [c.summary] := by
  have hmoves := h.during.moves interpreter.asksOnly_anyCall
  rw [hmoves.calls_eq]
  exact Journal.viewed_push _ _ _

end ScriptCall

/-! ## Calls in a row -/

/-- The host logs something, but not the success of a start. -/
inductive LogMove : Scene σ → Scene σ → Prop
  | log (s : Scene σ) {notice : Notice} (h : notice.isStarted = false) : LogMove s (s.log notice)

/-- What the host does itself during a dispatch: it logs, makes arrays, and keeps the timers. -/
inductive HostMove : Scene σ → Scene σ → Prop
  | log {s t : Scene σ} (h : LogMove s t) : HostMove s t
  | work (s : Scene σ) (engine : σ) : HostMove s (s.setEngine engine)
  | pollTimer (s : Scene σ) (id : UInt32) : HostMove s (s.pollTimer id).2
  | removeTimer (s : Scene σ) (id : UInt32) : HostMove s (s.removeTimer id)

/-- The calls that lead from one scene to another, in order, with moves of the host between them. -/
inductive CallsBetween (interpreter : Interpreter σ) (context : ContextHandle)
    (move : Scene σ → Scene σ → Prop) : List (ScriptCall σ) → Scene σ → Scene σ → Prop
  | none {s t : Scene σ} (h : Relation.ReflTransGen move s t) :
      CallsBetween interpreter context move [] s t
  | next {c : ScriptCall σ} {calls : List (ScriptCall σ)} {s t : Scene σ}
      (hbefore : Relation.ReflTransGen move s c.start) (hmade : c.Made interpreter context)
      (hrest : CallsBetween interpreter context move calls c.finish t) :
      CallsBetween interpreter context move (c :: calls) s t

theorem LogMove.calls_eq {s t : Scene σ} (h : LogMove s t) :
    t.machine.journal.calls = s.machine.journal.calls := by
  cases h with
  | log notice => exact (Journal.viewed_push _ _ _).trans (List.append_nil _)

theorem HostMove.calls_eq {s t : Scene σ} (h : HostMove s t) :
    t.machine.journal.calls = s.machine.journal.calls := by
  cases h with
  | log h => exact h.calls_eq
  | work engine => rfl
  | pollTimer id => rfl
  | removeTimer id => rfl

theorem HostMove.continues {allowed : HostFunction → List HostArgument → Prop} {s t : Scene σ}
    (h : HostMove s t) : s.Continues allowed t := by
  cases h with
  | log h =>
    cases h with
    | log hnotice => exact .log hnotice
  | work engine => exact .of_plain rfl (.refl _)
  | pollTimer id => exact .pollTimer s id
  | removeTimer id => exact .removeTimer s id

theorem HostMove.continues_of_moves {allowed : HostFunction → List HostArgument → Prop}
    {s t : Scene σ} (h : Relation.ReflTransGen HostMove s t) : s.Continues allowed t := by
  induction h with
  | refl => exact .refl s
  | tail _ hmove ih => exact ih.trans hmove.continues

theorem calls_eq_of_moves {move : Scene σ → Scene σ → Prop}
    (hmove : ∀ s t, move s t → t.machine.journal.calls = s.machine.journal.calls)
    {s t : Scene σ} (h : Relation.ReflTransGen move s t) :
    t.machine.journal.calls = s.machine.journal.calls := by
  induction h with
  | refl => rfl
  | tail _ hlast ih => rw [hmove _ _ hlast, ih]

namespace CallsBetween

variable {move : Scene σ → Scene σ → Prop} {calls calls' : List (ScriptCall σ)} {s t u : Scene σ}

theorem before (hbefore : Relation.ReflTransGen move s t)
    (h : CallsBetween interpreter context move calls t u) :
    CallsBetween interpreter context move calls s u := by
  cases h with
  | none h => exact .none (hbefore.trans h)
  | next hstart hmade hrest => exact .next (hbefore.trans hstart) hmade hrest

theorem append (h : CallsBetween interpreter context move calls s t)
    (h' : CallsBetween interpreter context move calls' t u) :
    CallsBetween interpreter context move (calls ++ calls') s u := by
  induction h with
  | none h => exact h'.before h
  | next hbefore hmade _ ih => exact .next hbefore hmade (ih h')

theorem mono {move' : Scene σ → Scene σ → Prop} (hmono : ∀ s t, move s t → move' s t)
    (h : CallsBetween interpreter context move calls s t) :
    CallsBetween interpreter context move' calls s t := by
  induction h with
  | none h => exact .none (Relation.ReflTransGen.mono hmono _ _ h)
  | next hbefore hmade _ ih =>
    exact .next (Relation.ReflTransGen.mono hmono _ _ hbefore) hmade ih

/-- The journal shows just these calls. -/
theorem calls_eq (hmove : ∀ s t, move s t → t.machine.journal.calls = s.machine.journal.calls)
    (h : CallsBetween interpreter context move calls s t) :
    t.machine.journal.calls = s.machine.journal.calls ++ calls.map (·.summary) := by
  induction h with
  | none h => rw [calls_eq_of_moves hmove h, List.map_nil, List.append_nil]
  | next hbefore hmade _ ih =>
    rw [ih, hmade.calls_eq, calls_eq_of_moves hmove hbefore, List.map_cons, List.append_assoc]
    rfl

theorem forall_made (h : CallsBetween interpreter context move calls s t) :
    ∀ c ∈ calls, c.Made interpreter context := by
  induction h with
  | none => simp
  | next _ hmade _ ih => exact List.forall_mem_cons.mpr ⟨hmade, ih⟩

/-- Nothing is taken away, neither when a call begins nor at the end. -/
theorem continues {allowed : HostFunction → List HostArgument → Prop}
    (hasks : interpreter.AsksOnly allowed) (h : CallsBetween interpreter context HostMove calls s t)
    (hcause : ∀ c ∈ calls, c.cause.IsCallback) :
    s.Continues allowed t ∧ ∀ c ∈ calls, s.Continues allowed c.start := by
  induction h with
  | none h => exact ⟨HostMove.continues_of_moves h, by simp⟩
  | @next c calls s t hbefore hmade _ ih =>
    have hstart : s.Continues allowed c.start := HostMove.continues_of_moves hbefore
    have hfinish : s.Continues allowed c.finish :=
      hstart.trans (hmade.continues hasks (hcause c List.mem_cons_self))
    rcases ih fun c' hc' => hcause c' (List.mem_cons_of_mem _ hc') with ⟨hend, hstarts⟩
    refine ⟨hfinish.trans hend, ?_⟩
    intro c' hc'
    rcases List.mem_cons.mp hc' with rfl | hc'
    · exact hstart
    · exact hfinish.trans (hstarts c' hc')

end CallsBetween

end ScriptHost
