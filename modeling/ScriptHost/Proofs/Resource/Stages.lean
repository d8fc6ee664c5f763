import ScriptHost.Proofs.Resource.StartPath
import ScriptHost.Proofs.Script.Calls

/-!
# The stages of a start and of a stop

A stage accounts for all references, keeps the handlers in step with the subscriptions and records a
few milestones.  `startModule_stage` lists what a start can have made and recorded by the time it
ends (`StartTrace`), and `teardown_releases` says that whatever there is then is given up.
-/

namespace ScriptHost

variable {σ : Type}

/-! ## Stages -/

/-- The way from one scene to another records just the given milestones. -/
structure Scene.Stage (allowed : HostFunction → List HostArgument → Prop)
    (shown : List Milestone) (s t : Scene σ) : Prop where
  accounts : s.Accounts allowed t
  subscribes : s.Subscribes t
  milestones : t.machine.journal.viewed Entry.milestone?
    = s.machine.journal.viewed Entry.milestone? ++ shown

namespace Scene.Stage

variable {interpreter : Interpreter σ} {allowed : HostFunction → List HostArgument → Prop}
  {shown shown' : List Milestone} {s t u : Scene σ}

theorem trans (h : s.Stage allowed shown t) (h' : t.Stage allowed shown' u) :
    s.Stage allowed (shown ++ shown') u := by
  constructor
  · exact h.accounts.trans h'.accounts
  · exact h.subscribes.trans h'.subscribes
  · rw [h'.milestones, h.milestones, List.append_assoc]

theorem of_continues (h : s.Continues allowed t) : s.Stage allowed [] t :=
  ⟨h.toAccounts, h.subscribes, by rw [h.milestones, List.append_nil]⟩

theorem of_quiet (hbindings : t.bindings = s.bindings)
    (hgrows : s.machine.journal.Grows Entry.Quiet t.machine.journal)
    (hmilestones : t.machine.journal.viewed Entry.milestone?
      = s.machine.journal.viewed Entry.milestone? ++ shown) : s.Stage allowed shown t :=
  ⟨.of_quiet hbindings hgrows, .of_eq (by rw [hbindings]) hgrows.subscriptions_eq, hmilestones⟩

theorem of_idle (hbindings : t.bindings = s.bindings)
    (hgrows : s.machine.journal.Grows Entry.Idle t.machine.journal) : s.Stage allowed [] t :=
  of_continues (.of_plain hbindings (hgrows.mono fun _ he => he.1))

theorem record (s : Scene σ) (entry : Entry) (h : entry.Quiet) :
    s.Stage allowed entry.milestone?.toList (s.record entry) :=
  of_quiet rfl ((Journal.Grows.refl _).push h) (Journal.viewed_push _ _ _)

/-- Of a call, the journal tells the occasion, but nothing that the script does. -/
theorem call (hasks : interpreter.AsksOnly allowed) (context : ContextHandle)
    (cause : CallCause) (function : FunctionHandle) (args : List Argument) (s : Scene σ) :
    s.Stage allowed (Entry.called cause function args).milestone?.toList
      (s.call interpreter context cause function args).2 := by
  have hcalled : s.Stage allowed (Entry.called cause function args).milestone?.toList
      (s.record (.called cause function args)) := record s _ trivial
  have hmoves : (s.record (.called cause function args)).Stage allowed []
      (s.call interpreter context cause function args).2 :=
    of_continues (.of_moves (call_moves hasks s))
  simpa using hcalled.trans hmoves

theorem pinArrayTypes (s : Scene σ) (module : ScriptModule) :
    s.Stage allowed [] (s.pinArrayTypes module) := by
  have hgrows := s.pinArrayTypes_grows module
  refine ⟨.pinArrayTypes s module, .of_eq rfl ?_, ?_⟩
  · exact hgrows.viewed_eq fun _ he => he.subscription?_eq
  · rw [hgrows.viewed_eq fun _ he => he.milestone?_eq, List.append_nil]

theorem flushTimers (s : Scene σ) : s.Stage allowed [] s.flushTimers := by
  refine ⟨.flushTimers s, .of_eq rfl ?_, ?_⟩
  · exact s.viewed_flushTimers fun _ => rfl
  · rw [List.append_nil]
    exact s.viewed_flushTimers fun _ => rfl

end Scene.Stage

/-! ## Starting -/

/-- What has been recorded of the life of a resource at a point of its start. -/
def StartPoint.milestones : StartPoint σ → List Milestone
  | built module _ => [.built module.name]
  | contextCreated module _ _ | entrypointFound module _ _ _ =>
    [.built module.name, .contextCreated]
  | returned module _ _ _ | succeeded module _ _ =>
    [.built module.name, .contextCreated, .entered]
  | failed stage _ (some (module, _)) _ =>
    [.built module.name, .contextCreated] ++ if stage = .runEntrypoint then [.entered] else []
  | _ => []

section Start

variable {interpreter : Interpreter σ} {allowed : HostFunction → List HostArgument → Prop}
  {r : Resource σ} {p q : StartPoint σ}

theorem Resource.logEntrypoint_continues (r : Resource σ) (outcome : Outcome) (s : Scene σ) :
    s.Continues allowed (r.logEntrypoint outcome s) := by
  cases outcome with
  | finished => exact .refl s
  | suspended | aborted | exception => exact .log rfl

theorem StartStep.stage (hasks : interpreter.AsksOnly allowed) {stage : StartStage}
    (h : StartStep interpreter r stage p q) :
    ∃ shown, (p.scene r).Stage allowed shown (q.scene r) ∧
      q.milestones = p.milestones ++ shown := by
  cases h with
  | opened | notOpened =>
    exact ⟨[], .of_idle rfl ((Journal.Grows.refl _).push ⟨⟨trivial, rfl⟩, rfl⟩), rfl⟩
  | @read file m _ _ h | @endedEarly file m _ h =>
    have hgrows := r.package.readWhole_grows file m
    rw [h] at hgrows
    exact ⟨[], .of_idle rfl hgrows, rfl⟩
  | decoded | notUtf8 | moduleStarted | moduleNotStarted | sectionAdded | sectionNotAdded
  | entrypointNamed | entrypointDeclared =>
    exact ⟨[], .of_idle rfl (.refl _), rfl⟩
  | @built m m' module h =>
    have hbuilt := (interpreter.build m.engine).follow_compiles r.package m
    rw [h] at hbuilt
    have hstage : (r.scene m).Stage allowed [.built module.name] (r.scene m') :=
      .of_quiet rfl (hbuilt.grows.mono fun _ he => he.1) hbuilt.milestones
    have hlog : (r.scene m').Stage allowed []
        (r.scene (m'.log (.compiledResource r.name))) := .of_continues (.log rfl)
    exact ⟨_, hstage.trans hlog, rfl⟩
  | @notBuilt m m' cause h =>
    have hbuilt := (interpreter.build m.engine).follow_compiles r.package m
    rw [h] at hbuilt
    exact ⟨[], .of_quiet rfl (hbuilt.grows.mono fun _ he => he.1) hbuilt.milestones, rfl⟩
  | contextCreated =>
    exact ⟨[.contextCreated],
      .of_quiet rfl ((Journal.Grows.refl _).push trivial) (Journal.viewed_push _ _ _), rfl⟩
  | entrypointNotFound => exact ⟨[], .of_continues (.log rfl), rfl⟩
  | @returned module context entrypoint m outcome s h
  | @notRun module context entrypoint m cause s h =>
    have hcall := Scene.Stage.call hasks context .entrypoint entrypoint [] (r.scene m)
    rw [h] at hcall
    exact ⟨[.entered], hcall, rfl⟩
  | @resolved module context outcome s =>
    have hlog : s.Stage allowed [] (r.logEntrypoint outcome s) :=
      .of_continues (r.logEntrypoint_continues outcome s)
    exact ⟨[], hlog.trans (.pinArrayTypes _ module), rfl⟩

theorem StartPath.stage (hasks : interpreter.AsksOnly allowed) {stages : List StartStage}
    (h : StartPath interpreter r stages p q) :
    ∃ shown, (p.scene r).Stage allowed shown (q.scene r) ∧
      q.milestones = p.milestones ++ shown := by
  induction h with
  | here p => exact ⟨[], .of_continues (.refl _), (List.append_nil _).symm⟩
  | step hstep _ ih =>
    obtain ⟨shown, hfirst, hshown⟩ := hstep.stage hasks
    obtain ⟨shown', hrest, hshown'⟩ := ih
    exact ⟨shown ++ shown', hfirst.trans hrest, by rw [hshown', hshown, List.append_assoc]⟩

end Start

namespace Resource

variable {interpreter : Interpreter σ} {allowed : HostFunction → List HostArgument → Prop}

/-- How a start can end: with which result, what it has made by then, and what it has recorded. -/
inductive StartTrace : Except StartError Unit → Option ScriptModule → Option ContextHandle →
    List Milestone → Prop
  | unbuilt (e : StartError) : StartTrace (.error e) none none []
  | unentered (e : StartError) (module : ScriptModule) (context : ContextHandle) :
      StartTrace (.error e) (some module) (some context) [.built module.name, .contextCreated]
  | interrupted (e : StartError) (module : ScriptModule) (context : ContextHandle) :
      StartTrace (.error e) (some module) (some context)
        [.built module.name, .contextCreated, .entered]
  | entered (module : ScriptModule) (context : ContextHandle) :
      StartTrace (.ok ()) (some module) (some context)
        [.built module.name, .contextCreated, .entered]

/-- The end of a path leaves a trace. -/
theorem StartTrace.of_result? {r : Resource σ} (hmodule : r.module = none)
    (hcontext : r.context = none) {last : StartPoint σ}
    {result : Except StartError Unit × Resource σ × Machine σ} (h : last.result? r = some result) :
    StartTrace result.1 result.2.1.module result.2.1.context last.milestones := by
  cases last with
  | succeeded module context s =>
    obtain rfl := Option.some.inj h
    exact .entered module context
  | failed stage error held s =>
    obtain rfl := Option.some.inj h
    cases held with
    | none =>
      show StartTrace (.error error) r.module r.context []
      rw [hmodule, hcontext]
      exact .unbuilt error
    | some made =>
      rcases made with ⟨module, context⟩
      by_cases hstage : stage = .runEntrypoint
      · simp only [StartPoint.milestones, if_pos hstage]
        exact .interrupted error module context
      · simp only [StartPoint.milestones, if_neg hstage]
        exact .unentered error module context
  | _ => cases h

theorem startModule_stage (hasks : interpreter.AsksOnly allowed) (r : Resource σ)
    (hmodule : r.module = none) (hcontext : r.context = none) (m : Machine σ) :
    ∃ result r' m' shown,
      r.startModule interpreter m = (result, r', m') ∧
      (r.scene m).Stage allowed shown (r'.scene m') ∧
      StartTrace result r'.module r'.context shown := by
  obtain ⟨stages, last, hpath, hresult⟩ := r.startModule_path interpreter m
  obtain ⟨shown, hstage, hshown⟩ := hpath.stage hasks
  have htrace := StartTrace.of_result? hmodule hcontext hresult
  rw [hshown] at htrace
  rw [← StartPoint.scene_of_result? hresult] at hstage
  exact ⟨_, _, _, shown, rfl, hstage, htrace⟩

/-! ## Stopping -/

/-- What giving up a module and a context records. -/
def teardownMilestones (module : Option ScriptModule) (context : Option ContextHandle) :
    List Milestone :=
  (module.map fun module => .discarded module.name).toList
    ++ (context.map fun _ => .contextReleased).toList

/-- A teardown gives up the module, the context and everything in the bindings. -/
theorem teardown_releases (interpreter : Interpreter σ)
    (allowed : HostFunction → List HostArgument → Prop) (r : Resource σ) (m : Machine σ) :
    ∃ t, r.teardown interpreter m
        = ({ r.adopt t with module := none, context := none }, t.machine) ∧
      (r.scene m).Accounts allowed t ∧
      t.machine.journal.viewed Entry.milestone?
        = m.journal.viewed Entry.milestone? ++ teardownMilestones r.module r.context ∧
      t.bindings.callbacks = [] ∧ t.bindings.arrays.held = [] := by
  have hmodule : ∀ engine name, (r.scene m).Stage allowed [.discarded name]
      (r.scene (({ m with engine } : Machine σ).record (.moduleDiscarded name))) := fun _ _ =>
    .of_quiet rfl ((Journal.Grows.refl _).push trivial) (Journal.viewed_push _ _ _)
  have hcontext : ∀ m₁ engine, (r.scene m₁).Stage allowed [.contextReleased]
      (r.scene (({ m₁ with engine } : Machine σ).record .contextReleased)) := fun _ _ =>
    .of_quiet rfl ((Journal.Grows.refl _).push trivial) (Journal.viewed_push _ _ _)
  -- what is done last does not depend on what there was
  have hrelease : ∀ m₂ shown, (r.scene m).Stage allowed shown (r.scene m₂) →
      (r.scene m).Accounts allowed (r.scene m₂).releaseAll ∧
      (r.scene m₂).releaseAll.machine.journal.viewed Entry.milestone?
        = m.journal.viewed Entry.milestone? ++ shown := by
    intro m₂ shown hstage
    refine ⟨hstage.accounts.trans (.releaseAll _), ?_⟩
    rw [Scene.viewed_releaseAll _ (fun _ => rfl) fun _ => rfl]
    exact hstage.milestones
  unfold teardown teardownMilestones
  cases r.module with
  | none =>
    cases r.context with
    | none =>
      have h := hrelease m [] (.of_continues (.refl _))
      exact ⟨_, rfl, h.1, h.2, rfl, rfl⟩
    | some context =>
      have h := hrelease _ _ (hcontext m (interpreter.releaseContext m.engine context))
      exact ⟨_, rfl, h.1, h.2, rfl, rfl⟩
  | some module =>
    have hdiscarded := hmodule (interpreter.discardModule m.engine module) module.name
    cases r.context with
    | none =>
      have h := hrelease _ _ hdiscarded
      exact ⟨_, rfl, h.1, h.2, rfl, rfl⟩
    | some context =>
      have h := hrelease _ _ (hdiscarded.trans
        (hcontext _ (interpreter.releaseContext
          (interpreter.discardModule m.engine module) context)))
      exact ⟨_, rfl, h.1, h.2, rfl, rfl⟩

/-- The stop function is called once at most. -/
theorem callStop_stage (hasks : interpreter.AsksOnly allowed) (r : Resource σ)
    (module : ScriptModule) (context : ContextHandle) (s : Scene σ) :
    ∃ shown, s.Stage allowed shown (r.callStop interpreter module context s) ∧
      (shown = [] ∨ shown = [.stopCalled]) := by
  unfold callStop
  cases module.function? stopDeclaration with
  | none => exact ⟨[], .of_continues (.refl s), Or.inl rfl⟩
  | some function =>
    have hstage := Scene.Stage.call hasks context .stop function [] s
    rcases hcall : s.call interpreter context .stop function [] with ⟨e | outcome, u⟩
    · rw [hcall] at hstage
      simp only [hcall]
      exact ⟨_, hstage.trans (.of_continues (.log rfl)), Or.inr rfl⟩
    · rw [hcall] at hstage
      cases outcome with
      | exception info =>
        simp only [hcall]
        exact ⟨_, hstage.trans (.of_continues (.log rfl)), Or.inr rfl⟩
      | finished | suspended | aborted =>
        simp only [hcall]
        exact ⟨_, hstage, Or.inr rfl⟩

theorem leaveModule_stage (hasks : interpreter.AsksOnly allowed) (r : Resource σ)
    (m : Machine σ) :
    ∃ t last, r.leaveModule interpreter m = (r.adopt t, t.machine) ∧
      (r.scene m).Stage allowed last t ∧ (last = [] ∨ last = [.stopCalled]) ∧
      (r.module = none → last = []) := by
  have hidle : (r.scene m).Stage allowed [] (r.scene m) := .of_continues (.refl _)
  unfold leaveModule
  cases r.module with
  | none => exact ⟨r.scene m, [], rfl, hidle, Or.inl rfl, fun _ => rfl⟩
  | some module =>
    cases r.context with
    | none => exact ⟨r.scene m, [], rfl, hidle, Or.inl rfl, fun _ => rfl⟩
    | some context =>
      rcases r.callStop_stage hasks module context
        (r.scene (m.log (.stoppingResource r.name))) with ⟨last, hstage, hlast⟩
      have hlog : (r.scene m).Stage allowed []
          (r.scene (m.log (.stoppingResource r.name))) := .of_continues (.log rfl)
      exact ⟨_, last, rfl, hlog.trans hstage, hlast, fun h => by cases h⟩

end Resource

end ScriptHost
