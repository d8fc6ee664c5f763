import ScriptHost.Proofs.Resource.Operations

/-!
# Operations as moves

Every operation on a resource comes to moves of a few kinds: something happens that the bindings are
no concern of, a function is announced, its script moves, array types are pinned, timers are flushed
or run, everything is released.  What each `SceneMove` keeps, every operation keeps
(`perform_moves`), and so does the end of a resource (`drop_moves`).
-/

namespace ScriptHost

variable {σ : Type} {interpreter : Interpreter σ}

/-- One thing that is done to a scene in the course of an operation. -/
inductive SceneMove (interpreter : Interpreter σ) : Scene σ → Scene σ → Prop
  /-- Files are read, modules and contexts come and go, lines are logged. -/
  | silent {s t : Scene σ} (hbindings : t.bindings = s.bindings)
      (hgrows : s.machine.journal.Grows Entry.Silent t.machine.journal) :
      SceneMove interpreter s t
  /-- A function is about to be called, but not for a timer. -/
  | announce (s : Scene σ) {cause : CallCause} (function : FunctionHandle)
      (args : List Argument) (h : ∀ id, cause ≠ .timer id) :
      SceneMove interpreter s (s.record (.called cause function args))
  | script {s t : Scene σ} (h : ScriptMove interpreter anyCall s t) : SceneMove interpreter s t
  | host {s t : Scene σ} (h : HostMove s t) : SceneMove interpreter s t
  | pinArrayTypes (s : Scene σ) (module : ScriptModule) :
      SceneMove interpreter s (s.pinArrayTypes module)
  | flushTimers (s : Scene σ) : SceneMove interpreter s s.flushTimers
  | releaseAll (s : Scene σ) : SceneMove interpreter s s.releaseAll
  /-- A timer is polled, and its callback is called if it is due. -/
  | runTimer (s : Scene σ) (r : Resource σ) (context : ContextHandle) (id : UInt32) :
      SceneMove interpreter s (r.runTimer interpreter (some context) id s)

/-- Any number of moves. -/
abbrev SceneMoves (interpreter : Interpreter σ) : Scene σ → Scene σ → Prop :=
  Relation.ReflTransGen (SceneMove interpreter)

namespace SceneMoves

variable {s t : Scene σ}

theorem silent (hbindings : t.bindings = s.bindings)
    (hgrows : s.machine.journal.Grows Entry.Silent t.machine.journal) :
    SceneMoves interpreter s t :=
  .single (.silent hbindings hgrows)

theorem log (s : Scene σ) (notice : Notice) : SceneMoves interpreter s (s.log notice) :=
  silent rfl ((Journal.Grows.refl _).push ⟨trivial, rfl⟩)

theorem call (s : Scene σ) (context : ContextHandle) {cause : CallCause}
    (function : FunctionHandle) (args : List Argument) (h : ∀ id, cause ≠ .timer id) :
    SceneMoves interpreter s (s.call interpreter context cause function args).2 := by
  have hscript : ScriptMoves interpreter anyCall (s.record (.called cause function args))
      (s.call interpreter context cause function args).2 :=
    Scene.call_moves interpreter.asksOnly_anyCall s
  exact .head (.announce s function args h)
    (Relation.ReflTransGen.mono (fun _ _ => .script) _ _ hscript)

/-- Calls that are made for no timer. -/
theorem of_calls {context : ContextHandle} {calls : List (ScriptCall σ)}
    (h : CallsBetween interpreter context HostMove calls s t)
    (hcause : ∀ c ∈ calls, ∀ id, c.cause ≠ .timer id) : SceneMoves interpreter s t := by
  induction h with
  | none hmoves => exact Relation.ReflTransGen.mono (fun _ _ => .host) _ _ hmoves
  | @next c calls s t hbefore hmade _ ih =>
    have hstart : SceneMoves interpreter s c.start :=
      Relation.ReflTransGen.mono (fun _ _ => .host) _ _ hbefore
    have hcall : SceneMoves interpreter c.start
        (c.start.call interpreter context c.cause c.function c.args).2 :=
      call c.start context c.function c.args (hcause c List.mem_cons_self)
    rw [hmade] at hcall
    exact (hstart.trans hcall).trans (ih fun c' hc' => hcause c' (List.mem_cons_of_mem _ hc'))

end SceneMoves

/-! ## Starting -/

section Start

variable {r : Resource σ} {p q : StartPoint σ}

/-- What a start does to a scene is silent, but for the call of the entry point and the array types
that it pins in the end.  A relation that these keep is kept by every stage. -/
theorem StartStep.preserves {kept : Scene σ → Scene σ → Prop}
    (htrans : ∀ s t u, kept s t → kept t u → kept s u)
    (hsilent : ∀ s t : Scene σ, t.bindings = s.bindings →
      s.machine.journal.Grows Entry.Silent t.machine.journal → kept s t)
    (hcall : ∀ (s : Scene σ) (context : ContextHandle) (function : FunctionHandle),
      kept s (s.call interpreter context .entrypoint function []).2)
    (hpin : ∀ (s : Scene σ) (module : ScriptModule), kept s (s.pinArrayTypes module))
    {stage : StartStage} (h : StartStep interpreter r stage p q) :
    kept (p.scene r) (q.scene r) := by
  have hlog : ∀ (s : Scene σ) (notice : Notice), kept s (s.log notice) := fun s notice =>
    hsilent s _ rfl ((Journal.Grows.refl _).push ⟨trivial, rfl⟩)
  cases h with
  | opened | notOpened => exact hsilent _ _ rfl ((Journal.Grows.refl _).push ⟨trivial, rfl⟩)
  | @read file m _ _ h | @endedEarly file m _ h =>
    have hgrows := (r.package.readWhole_grows file m).mono fun _ he => he.silent
    rw [h] at hgrows
    exact hsilent _ _ rfl hgrows
  | decoded | notUtf8 | entrypointNamed | entrypointDeclared | moduleStarted | moduleNotStarted
  | sectionAdded | sectionNotAdded =>
    exact hsilent _ _ rfl (.refl _)
  | @built m m' module h =>
    have hgrows := ((interpreter.build m.engine).follow_compiles r.package m).grows
    rw [h] at hgrows
    exact hsilent _ _ rfl (hgrows.push ⟨trivial, rfl⟩)
  | @notBuilt m m' cause h =>
    have hgrows := ((interpreter.build m.engine).follow_compiles r.package m).grows
    rw [h] at hgrows
    exact hsilent _ _ rfl hgrows
  | contextCreated => exact hsilent _ _ rfl ((Journal.Grows.refl _).push ⟨trivial, rfl⟩)
  | entrypointNotFound => exact hlog (r.scene _) _
  | @returned module context entrypoint m outcome s h
  | @notRun module context entrypoint m cause s h =>
    have hcalled := hcall (r.scene m) context entrypoint
    rw [h] at hcalled
    exact hcalled
  | @resolved module context outcome s =>
    cases outcome with
    | finished => exact hpin s module
    | suspended | aborted | exception => exact htrans s _ _ (hlog s _) (hpin _ module)

theorem StartStep.moves {stage : StartStage} (h : StartStep interpreter r stage p q) :
    SceneMoves interpreter (p.scene r) (q.scene r) := by
  refine h.preserves (fun _ _ _ => .trans) (fun _ _ => .silent) ?_ ?_
  · exact fun s context function => .call s context function [] fun id e => by cases e
  · exact fun s module => .single (.pinArrayTypes s module)

theorem StartPath.moves {stages : List StartStage} (h : StartPath interpreter r stages p q) :
    SceneMoves interpreter (p.scene r) (q.scene r) := by
  induction h with
  | here => exact .refl
  | step hstep _ ih => exact hstep.moves.trans ih

end Start

namespace Resource

variable (interpreter)

theorem startModule_moves (r : Resource σ) (m : Machine σ) :
    SceneMoves interpreter (r.scene m)
      ((r.startModule interpreter m).2.1.scene (r.startModule interpreter m).2.2) := by
  obtain ⟨stages, last, hpath, hresult⟩ := r.startModule_path interpreter m
  rw [StartPoint.scene_of_result? hresult]
  exact hpath.moves

/-! ## Stopping -/

theorem teardown_moves (r : Resource σ) (m : Machine σ) :
    SceneMoves interpreter (r.scene m)
      ((r.teardown interpreter m).1.scene (r.teardown interpreter m).2) := by
  have hmodule : ∀ engine name, m.journal.Grows Entry.Silent
      (({ m with engine } : Machine σ).record (.moduleDiscarded name)).journal :=
    fun _ _ => (Journal.Grows.refl _).push ⟨trivial, rfl⟩
  have hrelease : ∀ m₁ : Machine σ, m.journal.Grows Entry.Silent m₁.journal →
      SceneMoves interpreter (r.scene m) (r.scene m₁).releaseAll := by
    intro m₁ hgrows
    have hsilent : SceneMoves interpreter (r.scene m) (r.scene m₁) := .silent rfl hgrows
    exact hsilent.tail (SceneMove.releaseAll (r.scene m₁))
  unfold teardown
  cases r.module with
  | none =>
    cases r.context with
    | none => exact hrelease m (.refl _)
    | some context => exact hrelease _ ((Journal.Grows.refl _).push ⟨trivial, rfl⟩)
  | some module =>
    cases r.context with
    | none => exact hrelease _ (hmodule _ _)
    | some context => exact hrelease _ ((hmodule _ _).push ⟨trivial, rfl⟩)

theorem callStop_moves (r : Resource σ) (module : ScriptModule) (context : ContextHandle)
    (s : Scene σ) : SceneMoves interpreter s (r.callStop interpreter module context s) := by
  unfold callStop
  cases module.function? stopDeclaration with
  | none => exact .refl
  | some function =>
    have hcall : SceneMoves interpreter s (s.call interpreter context .stop function []).2 :=
      .call s context function [] fun id e => by cases e
    rcases hresult : s.call interpreter context .stop function [] with ⟨e | outcome, u⟩
    · rw [hresult] at hcall
      simp only [hresult]
      exact hcall.trans (SceneMoves.log u _)
    · rw [hresult] at hcall
      cases outcome with
      | exception info =>
        simp only [hresult]
        exact hcall.trans (SceneMoves.log u _)
      | finished | suspended | aborted =>
        simp only [hresult]
        exact hcall

theorem leaveModule_moves (r : Resource σ) (m : Machine σ) :
    SceneMoves interpreter (r.scene m)
      ((r.leaveModule interpreter m).1.scene (r.leaveModule interpreter m).2) := by
  unfold leaveModule
  cases r.module with
  | none => exact .refl
  | some module =>
    cases r.context with
    | none => exact .refl
    | some context =>
      have hlog : SceneMoves interpreter (r.scene m)
          (r.scene (m.log (.stoppingResource r.name))) := .log (r.scene m) _
      exact hlog.trans (r.callStop_moves interpreter module context _)

theorem stop_moves (r : Resource σ) (m : Machine σ) :
    SceneMoves interpreter (r.scene m)
      ((r.stop interpreter m).2.1.scene (r.stop interpreter m).2.2) := by
  have hleave := r.leaveModule_moves interpreter m
  have hteardown := (r.leaveModule interpreter m).1.teardown_moves interpreter
    (r.leaveModule interpreter m).2
  exact hleave.trans hteardown

/-- The end of a resource. -/
theorem drop_moves (r : Resource σ) (m : Machine σ) :
    ∃ t, r.drop interpreter m = t.machine ∧ SceneMoves interpreter (r.scene m) t ∧
      t.bindings.callbacks = [] := by
  unfold drop
  by_cases hheld : (r.module.isSome || r.context.isSome) = true
  · rw [if_pos hheld]
    have hstop := r.stop_moves interpreter m
    exact ⟨_, rfl, hstop.tail (SceneMove.releaseAll _), rfl⟩
  · rw [if_neg hheld]
    exact ⟨_, rfl, .single (SceneMove.releaseAll _), rfl⟩

theorem tryStart_moves (r : Resource σ) (m : Machine σ) :
    SceneMoves interpreter (r.scene m)
      ((r.tryStart interpreter m).2.1.scene (r.tryStart interpreter m).2.2) := by
  unfold tryStart
  by_cases hphase : r.phase = .uninitialized
  · simp only [ne_eq, hphase, not_true_eq_false, if_false]
    have hlog : SceneMoves interpreter (r.scene m)
        (r.scene (m.log (.startingResource r.name))) := SceneMoves.log (r.scene m) _
    have hstart := hlog.trans (Resource.startModule_moves interpreter
      { r with phase := .compiling } (m.log (.startingResource r.name)))
    rcases hresult : Resource.startModule interpreter { r with phase := .compiling }
      (m.log (.startingResource r.name)) with ⟨e | ⟨⟩, r₁, m₁⟩
    · rw [hresult] at hstart
      exact hstart.trans (r₁.teardown_moves interpreter m₁)
    · rw [hresult] at hstart
      exact hstart.trans (SceneMoves.log (r₁.scene m₁) _)
  · simp only [ne_eq, hphase, not_false_eq_true, if_true]
    exact .refl

theorem start_moves (r : Resource σ) (m : Machine σ) :
    SceneMoves interpreter (r.scene m)
      ((r.start interpreter m).2.1.scene (r.start interpreter m).2.2) := by
  have htry := r.tryStart_moves interpreter m
  unfold start
  rcases hresult : r.tryStart interpreter m with ⟨e | ⟨⟩, r₁, m₁⟩
  · rw [hresult] at htry
    exact htry.trans (SceneMoves.log (r₁.scene m₁) _)
  · rw [hresult] at htry
    exact htry

/-! ## Dispatches -/

/-- A dispatch that calls nothing for a timer. -/
theorem Dispatches.moves {r : Resource σ} (hcontext : r.isRunning = true → r.context.isSome)
    {calls : List (ScriptCall σ)} {s t : Scene σ} (h : r.Dispatches interpreter calls s t)
    (hcause : ∀ c ∈ calls, ∀ id, c.cause ≠ .timer id) : SceneMoves interpreter s t := by
  cases hrun : r.isRunning with
  | false =>
    obtain ⟨-, rfl⟩ := h.idle hrun
    exact .refl
  | true =>
    obtain ⟨context, hsome⟩ := Option.isSome_iff_exists.mp (hcontext hrun)
    exact .of_calls (h.called context hsome) hcause

section Dispatch

variable (r : Resource σ) (hcontext : r.isRunning = true → r.context.isSome) (m : Machine σ)
include hcontext

theorem dispatchCustom_moves (name : String) (locality : Locality) (sender : Option Entity)
    (values : List Value) :
    SceneMoves interpreter (r.scene m)
      ((r.dispatchCustom interpreter name locality sender values m).1.scene
        (r.dispatchCustom interpreter name locality sender values m).2) := by
  obtain ⟨t, calls, heq, hdispatch, -, hcauses⟩ :=
    r.dispatchCustom_calls interpreter name locality sender values m
  rw [heq]
  refine hdispatch.moves interpreter hcontext ?_
  intro c hc id htimer
  rw [(hcauses c hc).1] at htimer
  cases htimer

theorem onEvent_moves (event : HostEvent) :
    SceneMoves interpreter (r.scene m)
      ((r.onEvent interpreter event m).2.1.scene (r.onEvent interpreter event m).2.2) := by
  unfold onEvent
  cases hrun : r.isRunning with
  | false => exact .refl
  | true =>
    simp only [Bool.not_true, Bool.false_eq_true, if_false]
    split
    · exact r.dispatchCustom_moves interpreter hcontext m _ _ _ _
    · exact r.dispatchCustom_moves interpreter hcontext m _ _ _ _
    · obtain ⟨t, calls, heq, hdispatch, hcauses⟩ := r.dispatchHost_calls interpreter hrun event m
      rw [heq]
      refine hdispatch.moves interpreter hcontext ?_
      intro c hc id htimer
      rw [(hcauses c hc).1] at htimer
      cases htimer

omit hcontext in
theorem runTimers_moves (context : ContextHandle) (ids : List UInt32) (s : Scene σ) :
    SceneMoves interpreter s
      (ids.foldl (fun s id => r.runTimer interpreter (some context) id s) s) := by
  induction ids generalizing s with
  | nil => exact .refl
  | cons id rest ih =>
    exact .head (.runTimer s r context id) (ih (r.runTimer interpreter (some context) id s))

theorem onTick_moves :
    SceneMoves interpreter (r.dispatchStart .tick m)
      ((r.onTick interpreter m).1.scene (r.onTick interpreter m).2) := by
  unfold onTick dispatchStart
  cases hrun : r.isRunning with
  | false => exact .refl
  | true =>
    obtain ⟨context, hsome⟩ := Option.isSome_iff_exists.mp (hcontext hrun)
    rw [hsome]
    exact r.runTimers_moves interpreter context _ _

omit hcontext in
theorem dispatchStart_moves (operation : Operation) :
    SceneMoves interpreter (r.scene m) (r.dispatchStart operation m) := by
  cases operation with
  | tick =>
    unfold dispatchStart
    cases hrun : r.isRunning with
    | false => exact .refl
    | true => exact .single (.flushTimers (r.scene m))
  | start | tryStart | stop | event | dispatch | hostCall => exact .refl

/-- Every operation comes to moves. -/
theorem perform_moves (operation : Operation) :
    SceneMoves interpreter (r.scene m)
      ((r.perform interpreter operation m).2.1.scene
        (r.perform interpreter operation m).2.2) := by
  cases operation with
  | start => exact r.start_moves interpreter m
  | tryStart => exact r.tryStart_moves interpreter m
  | stop => exact r.stop_moves interpreter m
  | event event => exact r.onEvent_moves interpreter hcontext m event
  | tick =>
    have hstart := r.dispatchStart_moves interpreter m .tick
    exact hstart.trans (r.onTick_moves interpreter hcontext m)
  | dispatch name locality sender values =>
    exact r.dispatchCustom_moves interpreter hcontext m name locality sender values
  | hostCall function userData args =>
    exact .single (.script (.hostCall (r.scene m) function userData args trivial))

end Dispatch

/-! ## Timers -/

/-- A timer that is polled is not due, and nothing happens.  Or it is: its callback is called, lines
are logged, and a timer that fires once is queued for removal. -/
theorem runTimer_cases (r : Resource σ) (context : ContextHandle) (id : UInt32) (s : Scene σ) :
    r.runTimer interpreter (some context) id s = s ∨
      ∃ timer t u, s.bindings.timers.Due id s.machine.now timer ∧
        ScriptMoves interpreter anyCall
          ((s.pollTimer id).2.record (.called (.timer id) timer.callback [])) t ∧
        Relation.ReflTransGen LogMove t u ∧
        r.runTimer interpreter (some context) id s
          = if timer.once then u.removeTimer id else u := by
  obtain ⟨call?, htaken⟩ := r.runTimer_taken interpreter context id s
  generalize r.runTimer interpreter (some context) id s = finish at htaken ⊢
  cases htaken with
  | passed => exact Or.inl rfl
  | @fired id s u timer c hdue hmade hstart hcause hfunction hargs hlogs =>
    refine Or.inr ⟨timer, c.finish, u, hdue, ?_, hlogs, rfl⟩
    have hcall := hmade.during.moves interpreter.asksOnly_anyCall
    rwa [hstart, hcause, hfunction, hargs] at hcall

end Resource

end ScriptHost
