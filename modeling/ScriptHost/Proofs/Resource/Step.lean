import ScriptHost.Proofs.Resource.Operations

/-!
# What one operation can do

`Lifetime` lists the lives that a resource can have had, by its phase, what it holds and what has
been recorded.  `Step` says all that one operation does: it goes on with the life, accounts for all
references, keeps the handlers in step with the subscriptions, and leaves nothing behind when it
stops the resource.  `perform_step` proves it for every operation, `drop_step` for the end.
-/

namespace ScriptHost

variable {σ : Type}

namespace Resource

/-- The lives of a resource: its phase, the module and the context that it holds, and the milestones
behind it. -/
inductive Lifetime :
    Phase → Option ScriptModule → Option ContextHandle → List Milestone → Prop
  | fresh : Lifetime .uninitialized none none []
  | running (module : ScriptModule) (context : ContextHandle) :
      Lifetime .running (some module) (some context)
        [.built module.name, .contextCreated, .entered, .started]
  | neverBuilt : Lifetime .stopped none none []
  | neverEntered (module : String) :
      Lifetime .stopped none none
        [.built module, .contextCreated, .discarded module, .contextReleased]
  | interrupted (module : String) :
      Lifetime .stopped none none
        [.built module, .contextCreated, .entered, .discarded module, .contextReleased]
  | stopped (module : String) {last : List Milestone} (h : last = [] ∨ last = [.stopCalled]) :
      Lifetime .stopped none none
        ([.built module, .contextCreated, .entered, .started] ++ last
          ++ [.discarded module, .contextReleased])

/-- The changes of phase that there are. -/
inductive PhaseStep : Phase → Phase → Prop
  | same (phase : Phase) : PhaseStep phase phase
  | started : PhaseStep .uninitialized .running
  | abandoned : PhaseStep .uninitialized .stopped
  | stopped : PhaseStep .running .stopped

/-- The resource has had a life with these milestones. -/
def Lived (r : Resource σ) (milestones : List Milestone) : Prop :=
  Lifetime r.phase r.module r.context milestones

/-- The bindings hold nothing any more. -/
def Cleared (r : Resource σ) : Prop :=
  r.bindings.callbacks = [] ∧ r.bindings.arrays.held = []

variable {allowed : HostFunction → List HostArgument → Prop} {interpreter : Interpreter σ}

/-- What an operation does to a resource whose life it goes on with. -/
structure Step (allowed : HostFunction → List HostArgument → Prop) (milestones : List Milestone)
    (r : Resource σ) (m : Machine σ) (r' : Resource σ) (m' : Machine σ) : Prop where
  accounts : (r.scene m).Accounts allowed (r'.scene m')
  lived : ∃ shown, m'.journal.viewed Entry.milestone? = m.journal.viewed Entry.milestone? ++ shown ∧
    r'.Lived (milestones ++ shown)
  phase : PhaseStep r.phase r'.phase
  subscribes : r'.phase ≠ .stopped → (r.scene m).Subscribes (r'.scene m')
  /-- A resource that has been stopped just now holds nothing. -/
  cleared : r'.phase = .stopped → r.phase ≠ .stopped → r'.Cleared

namespace Step

variable {milestones : List Milestone} {r : Resource σ} {m : Machine σ} {t : Scene σ}

/-- Only the scene goes on. -/
theorem of_accounts (hlived : r.Lived milestones) (haccounts : (r.scene m).Accounts allowed t)
    (hsubscribes : (r.scene m).Subscribes t)
    (hmilestones : t.machine.journal.viewed Entry.milestone?
      = m.journal.viewed Entry.milestone?) :
    Step allowed milestones r m (r.adopt t) t.machine := by
  refine ⟨haccounts, ⟨[], ?_, ?_⟩, .same r.phase, fun _ => hsubscribes, ?_⟩
  · rw [hmilestones, List.append_nil]
  · rw [List.append_nil]
    exact hlived
  · intro hstopped hnot
    exact absurd hstopped hnot

theorem of_continues (hlived : r.Lived milestones) (h : (r.scene m).Continues allowed t) :
    Step allowed milestones r m (r.adopt t) t.machine :=
  .of_accounts hlived h.toAccounts h.subscribes h.milestones

theorem log {r' : Resource σ} {m' : Machine σ} (h : Step allowed milestones r m r' m')
    {notice : Notice} (hnotice : notice.isStarted = false) :
    Step allowed milestones r m r' (m'.log notice) := by
  have hlog : (r'.scene m').Continues allowed (r'.scene (m'.log notice)) := .log hnotice
  rcases h.lived with ⟨shown, hshown, hlived⟩
  refine ⟨h.accounts.trans hlog.toAccounts, ⟨shown, ?_, hlived⟩, h.phase, ?_, h.cleared⟩
  · exact hlog.milestones.trans hshown
  · exact fun hphase => (h.subscribes hphase).trans hlog.subscribes

end Step

namespace Lifetime

variable {module : Option ScriptModule} {context : Option ContextHandle}
  {milestones : List Milestone}

theorem of_uninitialized (h : Lifetime .uninitialized module context milestones) :
    module = none ∧ context = none ∧ milestones = [] := by
  cases h
  exact ⟨rfl, rfl, rfl⟩

theorem of_running (h : Lifetime .running module context milestones) :
    ∃ m c, module = some m ∧ context = some c ∧
      milestones = [.built m.name, .contextCreated, .entered, .started] := by
  cases h with
  | running m c => exact ⟨m, c, rfl, rfl, rfl⟩

theorem of_stopped (h : Lifetime .stopped module context milestones) :
    module = none ∧ context = none := by
  cases h <;> exact ⟨rfl, rfl⟩

theorem phaseStep_stopped {phase : Phase} (h : Lifetime phase module context milestones) :
    PhaseStep phase .stopped := by
  cases h with
  | fresh => exact .abandoned
  | running => exact .stopped
  | neverBuilt | neverEntered | interrupted | stopped => exact .same .stopped

/-- A stop gives up what there is, and can have called the stop function before. -/
theorem stop {phase : Phase} (h : Lifetime phase module context milestones)
    {last : List Milestone} (hlast : last = [] ∨ last = [.stopCalled])
    (hnone : module = none → last = []) :
    Lifetime .stopped none none (milestones ++ (last ++ teardownMilestones module context)) := by
  cases h with
  | running m c =>
    rw [← List.append_assoc]
    exact .stopped m.name hlast
  | fresh =>
    rw [hnone rfl]
    exact .neverBuilt
  | neverBuilt =>
    rw [hnone rfl]
    exact .neverBuilt
  | neverEntered name =>
    rw [hnone rfl]
    exact .neverEntered name
  | interrupted name =>
    rw [hnone rfl]
    exact .interrupted name
  | stopped name h =>
    rw [hnone rfl]
    simpa [teardownMilestones] using Lifetime.stopped name h

theorem ne_compiling {phase : Phase} (h : Lifetime phase module context milestones) :
    phase ≠ .compiling := by
  cases h <;> exact fun hphase => by cases hphase

end Lifetime

theorem Lived.at_phase {r : Resource σ} {milestones : List Milestone} (h : r.Lived milestones)
    {phase : Phase} (hphase : r.phase = phase) :
    Lifetime phase r.module r.context milestones := by
  rw [← hphase]
  exact h

/-- A running resource has a context. -/
theorem Lived.context_isSome {r : Resource σ} {milestones : List Milestone}
    (h : r.Lived milestones) (hrun : r.isRunning = true) : r.context.isSome := by
  have hphase : r.phase = .running := by simpa [isRunning] using hrun
  rcases (h.at_phase hphase).of_running with ⟨_, context, _, hcontext, _⟩
  rw [hcontext]
  rfl

/-! ## Starting -/

theorem StartTrace.failed {e : StartError} {module : Option ScriptModule}
    {context : Option ContextHandle} {shown : List Milestone}
    (h : StartTrace (.error e) module context shown) :
    Lifetime .stopped none none (shown ++ teardownMilestones module context) := by
  cases h with
  | unbuilt => exact .neverBuilt
  | unentered _ module => exact .neverEntered module.name
  | interrupted _ module => exact .interrupted module.name

theorem StartTrace.succeeded {module : Option ScriptModule} {context : Option ContextHandle}
    {shown : List Milestone} (h : StartTrace (.ok ()) module context shown) :
    Lifetime .running module context (shown ++ [.started]) := by
  cases h with
  | entered module context => exact .running module context

theorem tryStart_step (hasks : interpreter.AsksOnly allowed) (r : Resource σ) (m : Machine σ)
    {milestones : List Milestone} (hlived : r.Lived milestones) :
    Step allowed milestones r m (r.tryStart interpreter m).2.1 (r.tryStart interpreter m).2.2 := by
  unfold tryStart
  by_cases hphase : r.phase = .uninitialized
  · rcases (hlived.at_phase hphase).of_uninitialized with ⟨hmodule, hcontext, rfl⟩
    let r₀ : Resource σ := { r with phase := .compiling }
    rcases r₀.startModule_stage hasks hmodule hcontext (m.log (.startingResource r.name))
      with ⟨result, r₁, m₁, shown, heq, hstage, htrace⟩
    have hlog : (r.scene m).Stage allowed [] (r₀.scene (m.log (.startingResource r.name))) :=
      .of_continues (.log rfl)
    have hstart : (r.scene m).Stage allowed shown (r₁.scene m₁) := hlog.trans hstage
    simp only [ne_eq, hphase, not_true_eq_false, if_false]
    simp only [r₀] at heq
    rw [heq]
    rcases result with e | ⟨⟩
    · -- whatever the start has made is given up
      rcases r₁.teardown_releases interpreter allowed m₁
        with ⟨t, hteardown, haccounts, hmilestones, hcallbacks, harrays⟩
      simp only [hteardown]
      refine ⟨hstart.accounts.trans haccounts, ⟨_, ?_, htrace.failed⟩, ?_, ?_, ?_⟩
      · rw [hmilestones]
        exact (congrArg (· ++ _) hstart.milestones).trans (List.append_assoc _ _ _)
      · rw [hphase]
        exact .abandoned
      · exact fun h => absurd rfl h
      · exact fun _ _ => ⟨hcallbacks, harrays⟩
    · have hend : (r.scene m).Stage allowed (shown ++ [.started])
          (r₁.scene (m₁.log (.startedResource r₁.name))) :=
        hstart.trans (.record (r₁.scene m₁) (.logged (.startedResource r₁.name)) trivial)
      simp only
      refine ⟨hend.accounts, ⟨_, hend.milestones, htrace.succeeded⟩, ?_, ?_, ?_⟩
      · rw [hphase]
        exact .started
      · exact fun _ => hend.subscribes
      · exact fun h => by cases h
  · simp only [ne_eq, hphase, not_false_eq_true, if_true]
    exact .of_continues hlived (.refl _)

theorem start_step (hasks : interpreter.AsksOnly allowed) (r : Resource σ) (m : Machine σ)
    {milestones : List Milestone} (hlived : r.Lived milestones) :
    Step allowed milestones r m (r.start interpreter m).2.1 (r.start interpreter m).2.2 := by
  have hstep := tryStart_step hasks r m hlived
  unfold start
  rcases htry : r.tryStart interpreter m with ⟨e | ⟨⟩, r', m'⟩
  · simp only [htry] at hstep ⊢
    exact hstep.log rfl
  · simp only [htry] at hstep ⊢
    exact hstep

/-! ## Stopping -/

theorem stop_step (hasks : interpreter.AsksOnly allowed) (r : Resource σ) (m : Machine σ)
    {milestones : List Milestone} (hlived : r.Lived milestones) :
    Step allowed milestones r m (r.stop interpreter m).2.1 (r.stop interpreter m).2.2 ∧
      (r.stop interpreter m).2.1.phase = .stopped ∧ (r.stop interpreter m).2.1.Cleared := by
  rcases r.leaveModule_stage hasks m with ⟨t, last, hleave, hstage, hlast, hnone⟩
  rcases (r.adopt t).teardown_releases interpreter allowed t.machine
    with ⟨u, hteardown, haccounts, hmilestones, hcallbacks, harrays⟩
  unfold stop
  simp only [hleave, hteardown]
  refine ⟨⟨hstage.accounts.trans haccounts, ⟨_, ?_, hlived.stop hlast hnone⟩, ?_, ?_, ?_⟩,
    trivial, hcallbacks, harrays⟩
  · rw [hmilestones, hstage.milestones, List.append_assoc]
    rfl
  · exact hlived.phaseStep_stopped
  · exact fun h => absurd rfl h
  · exact fun _ _ => ⟨hcallbacks, harrays⟩

/-- At its end a resource is stopped if need be, and nothing that it held remains. -/
theorem drop_step (hasks : interpreter.AsksOnly allowed) (r : Resource σ) (m : Machine σ)
    {milestones : List Milestone} (hlived : r.Lived milestones) :
    ∃ t, r.drop interpreter m = t.machine ∧ (r.scene m).Accounts allowed t ∧
      t.bindings.callbacks = [] ∧ t.bindings.arrays.held = [] ∧
      ∃ shown, t.machine.journal.viewed Entry.milestone?
          = m.journal.viewed Entry.milestone? ++ shown ∧
        Lifetime .stopped none none (milestones ++ shown) := by
  -- whatever was done before, the last release records no milestone
  have hrelease (s : Scene σ) : s.releaseAll.machine.journal.viewed Entry.milestone?
      = s.machine.journal.viewed Entry.milestone? :=
    s.viewed_releaseAll (fun _ => rfl) fun _ => rfl
  unfold drop
  by_cases hheld : (r.module.isSome || r.context.isSome) = true
  · rw [if_pos hheld]
    rcases stop_step hasks r m hlived with ⟨hstep, hphase, -⟩
    rcases hstep.lived with ⟨shown, hshown, hstopped⟩
    have hlast : Lifetime .stopped none none (milestones ++ shown) := by
      have hlife := hstopped.at_phase hphase
      rcases hlife.of_stopped with ⟨hmodule, hcontext⟩
      rw [hmodule, hcontext] at hlife
      exact hlife
    refine ⟨_, rfl, hstep.accounts.trans (.releaseAll _), rfl, rfl, shown, ?_, hlast⟩
    rw [hrelease]
    exact hshown
  · rw [if_neg hheld]
    have hnone : r.module = none ∧ r.context = none := by
      simpa [not_or] using hheld
    have hlast : Lifetime .stopped none none (milestones ++ []) := by
      have hlife : Lifetime r.phase none none milestones := by
        have h : Lifetime r.phase r.module r.context milestones := hlived
        rw [hnone.1, hnone.2] at h
        exact h
      exact hlife.stop (Or.inl rfl) fun _ => rfl
    refine ⟨_, rfl, .releaseAll _, rfl, rfl, [], ?_, hlast⟩
    rw [hrelease, List.append_nil]
    rfl

/-! ## Operations of any kind -/

end Resource

/-- If the operation is a call of a host function, it is allowed. -/
def Operation.Asks (allowed : HostFunction → List HostArgument → Prop) : Operation → Prop
  | hostCall function _ args => allowed function args
  | _ => True

theorem Operation.asks_anyCall (operation : Operation) : operation.Asks anyCall := by
  cases operation <;> exact trivial

namespace Resource

variable {allowed : HostFunction → List HostArgument → Prop} {interpreter : Interpreter σ}

theorem perform_step (hasks : interpreter.AsksOnly allowed) (r : Resource σ) (m : Machine σ)
    {operation : Operation} (hop : operation.Asks allowed) {milestones : List Milestone}
    (hlived : r.Lived milestones) :
    Step allowed milestones r m (r.perform interpreter operation m).2.1
      (r.perform interpreter operation m).2.2 := by
  -- a dispatch only continues the scene
  have hdispatch : operation.IsDispatch →
      Step allowed milestones r m (r.perform interpreter operation m).2.1
        (r.perform interpreter operation m).2.2 := by
    intro h
    have hcontext : r.isRunning = true → r.context.isSome := hlived.context_isSome
    rcases r.perform_dispatches interpreter hcontext h m with ⟨t, calls, heq, hcalls, hpins⟩
    have hcause : ∀ c ∈ calls, c.cause.IsCallback := by
      intro c hc
      rcases hpins c hc with hpinned | hpinned
      · exact hpinned.isCallback
      · exact hpinned.isCallback
    have hcontinues := (hcalls.continues hcontext hasks hcause).1
    have hstage := (r.dispatchStart_stage operation m).trans (.of_continues hcontinues)
    rw [heq]
    exact .of_accounts hlived hstage.accounts hstage.subscribes
      (hstage.milestones.trans (List.append_nil _))
  cases operation with
  | start => exact start_step hasks r m hlived
  | tryStart => exact tryStart_step hasks r m hlived
  | stop => exact (stop_step hasks r m hlived).1
  | event => exact hdispatch trivial
  | tick => exact hdispatch trivial
  | dispatch => exact hdispatch trivial
  | hostCall function userData args =>
    exact .of_continues hlived (.hostCall interpreter userData hop (r.scene m))

variable (interpreter) in
/-- Nothing that was recorded is lost. -/
theorem perform_grows (r : Resource σ) (m : Machine σ) {milestones : List Milestone}
    (hlived : r.Lived milestones) (operation : Operation) :
    m.journal.Grows (fun _ => True) (r.perform interpreter operation m).2.2.journal :=
  (perform_step interpreter.asksOnly_anyCall r m operation.asks_anyCall hlived).accounts.grows

variable (interpreter) in
theorem drop_grows (r : Resource σ) (m : Machine σ) {milestones : List Milestone}
    (hlived : r.Lived milestones) :
    m.journal.Grows (fun _ => True) (r.drop interpreter m).journal := by
  rcases drop_step interpreter.asksOnly_anyCall r m hlived with ⟨t, heq, haccounts, -⟩
  rw [heq]
  exact haccounts.grows

end Resource

end ScriptHost
