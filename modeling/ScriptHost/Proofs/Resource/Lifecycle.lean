import ScriptHost.Proofs.Resource.Reachable

/-!
# The life of a resource

Between operations a resource holds a module and a context exactly while it is running.  Over its
whole life nothing is made, entered or left twice (`Orderly`), and what has been made is given up by
the time it is stopped or has come to its end (`Settled`).  `lifecycle` collects this, and what the
operations do in the other phases, for every run.
-/

namespace ScriptHost

variable {σ : Type} {interpreter : Interpreter σ}

def Milestone.isBuilt : Milestone → Bool
  | built _ => true
  | _ => false

namespace Resource

/-- Nothing is done twice in a life, and the stop function is not called before a start has
succeeded. -/
structure Orderly (milestones : List Milestone) : Prop where
  built_once : milestones.countP Milestone.isBuilt ≤ 1
  contextCreated_once : milestones.count .contextCreated ≤ 1
  entered_once : milestones.count .entered ≤ 1
  stopCalled_once : milestones.count .stopCalled ≤ 1
  stopCalled_after_started :
    ∀ i, milestones[i]? = some .stopCalled → .started ∈ milestones.take i

/-- Everything that has been made has been given up, once. -/
structure Settled (milestones : List Milestone) : Prop where
  modules : ∀ name, milestones.count (.discarded name) = milestones.count (.built name)
  contexts : milestones.count .contextReleased = milestones.count .contextCreated

namespace Lifetime

variable {phase : Phase} {module : Option ScriptModule} {context : Option ContextHandle}
  {milestones : List Milestone}

theorem running_iff (h : Lifetime phase module context milestones) :
    (phase = .running ↔ module.isSome) ∧ (phase = .running ↔ context.isSome) := by
  cases h <;> simp

/-- A life in which the stop function is not called has nothing to put before it. -/
theorem orderly_of_not_stopCalled (hbuilt : milestones.countP Milestone.isBuilt ≤ 1)
    (hcontext : milestones.count .contextCreated ≤ 1) (hentered : milestones.count .entered ≤ 1)
    (hstop : .stopCalled ∉ milestones) : Orderly milestones := by
  refine ⟨hbuilt, hcontext, hentered, ?_, ?_⟩
  · rw [List.count_eq_zero_of_not_mem hstop]
    exact Nat.zero_le 1
  · intro i hi
    exact absurd (List.mem_of_getElem? hi) hstop

theorem orderly (h : Lifetime phase module context milestones) : Orderly milestones := by
  cases h with
  | fresh | running | neverBuilt | neverEntered | interrupted =>
    refine orderly_of_not_stopCalled ?_ ?_ ?_ ?_
    · simp [List.countP_cons, Milestone.isBuilt]
    · simp
    · simp
    · simp
  | stopped name h =>
    rcases h with rfl | rfl
    · refine orderly_of_not_stopCalled ?_ ?_ ?_ ?_
      · simp [List.countP_cons, Milestone.isBuilt]
      · simp
      · simp
      · simp
    · refine ⟨?_, ?_, ?_, ?_, ?_⟩
      · simp [List.countP_cons, Milestone.isBuilt]
      · simp
      · simp
      · simp
      · intro i hi
        -- the stop function is the fifth milestone, the success of the start the fourth
        rcases i with _ | _ | _ | _ | _ | _ | _ | i <;> simp at hi ⊢

theorem settled (h : Lifetime .stopped module context milestones) : Settled milestones := by
  cases h with
  | neverBuilt => exact ⟨fun _ => rfl, rfl⟩
  | neverEntered | interrupted =>
    refine ⟨?_, ?_⟩
    · intro name
      simp [List.count_cons]
    · simp
  | stopped _ h =>
    rcases h with rfl | rfl
    · refine ⟨?_, ?_⟩
      · intro name
        simp [List.count_cons]
      · simp
    · refine ⟨?_, ?_⟩
      · intro name
        simp [List.count_cons]
      · simp

end Lifetime

/-! ## Starts -/

/-- A start either succeeds, and the resource is running, or fails, and it is stopped. -/
theorem tryStart_phase (interpreter : Interpreter σ) (r : Resource σ)
    (h : r.phase = .uninitialized) (m : Machine σ) :
    ((r.tryStart interpreter m).1 = .ok () ∧ (r.tryStart interpreter m).2.1.phase = .running) ∨
      ∃ e, (r.tryStart interpreter m).1 = .error e ∧
        (r.tryStart interpreter m).2.1.phase = .stopped := by
  unfold tryStart
  simp only [h, ne_eq, not_true_eq_false, if_false]
  rcases startModule interpreter { r with phase := .compiling } (m.log (.startingResource r.name))
    with ⟨e | ⟨⟩, r', m'⟩
  · exact Or.inr ⟨e, rfl, rfl⟩
  · exact Or.inl ⟨rfl, rfl⟩

theorem start_eq_tryStart (interpreter : Interpreter σ) (r : Resource σ) (m : Machine σ) :
    (r.start interpreter m).2.1 = (r.tryStart interpreter m).2.1 := by
  unfold start
  rcases r.tryStart interpreter m with ⟨e | ⟨⟩, r', m'⟩ <;> rfl

/-! ## Operations in other phases -/

theorem onEvent_of_not_running (interpreter : Interpreter σ) (r : Resource σ)
    (h : r.phase ≠ .running) (event : HostEvent) (m : Machine σ) :
    r.onEvent interpreter event m = (.ok true, r, m) := by
  simp [onEvent, isRunning, h]

theorem dispatchCustom_of_not_running (interpreter : Interpreter σ) (r : Resource σ)
    (h : r.phase ≠ .running) (name : String) (locality : Locality) (sender : Option Entity)
    (values : List Value) (m : Machine σ) :
    r.dispatchCustom interpreter name locality sender values m = (r, m) := by
  simp [dispatchCustom, isRunning, h]

theorem onTick_of_not_running (interpreter : Interpreter σ) (r : Resource σ)
    (h : r.phase ≠ .running) (m : Machine σ) : r.onTick interpreter m = (r, m) := by
  simp [onTick, isRunning, h]

theorem perform_of_not_running (interpreter : Interpreter σ) (r : Resource σ)
    (h : r.phase ≠ .running) {operation : Operation} (hop : operation.IsDispatch)
    (m : Machine σ) : (r.perform interpreter operation m).2 = (r, m) := by
  cases operation with
  | event event =>
    rw [perform, r.onEvent_of_not_running interpreter h]
  | tick => exact r.onTick_of_not_running interpreter h m
  | dispatch => exact r.dispatchCustom_of_not_running interpreter h _ _ _ _ m
  | start | tryStart | stop | hostCall => exact hop.elim

theorem tryStart_of_not_uninitialized (interpreter : Interpreter σ) (r : Resource σ)
    (h : r.phase ≠ .uninitialized) (m : Machine σ) :
    r.tryStart interpreter m = (.error (.invalidState r.name r.phase), r, m) := by
  simp [tryStart, h]

theorem start_of_not_uninitialized (interpreter : Interpreter σ) (r : Resource σ)
    (h : r.phase ≠ .uninitialized) (m : Machine σ) :
    r.start interpreter m
      = (false, r, m.log (.startFailed r.name (.invalidState r.name r.phase))) := by
  rw [start, r.tryStart_of_not_uninitialized interpreter h m]

/-! ## Whole runs -/

/-- The life of a resource, between any two operations of any run, and at its end. -/
theorem lifecycle {history : Journal} {r : Resource σ} {m : Machine σ}
    (h : Reachable interpreter history r m) :
    ((r.phase = .running ↔ r.module.isSome) ∧ (r.phase = .running ↔ r.context.isSome) ∧
      r.phase ≠ .compiling) ∧
    (∀ operation, PhaseStep r.phase (r.perform interpreter operation m).2.1.phase) ∧
    Orderly (history.viewed Entry.milestone?) ∧
    (r.phase = .stopped → Settled (history.viewed Entry.milestone?)) ∧
    (∀ ended, ended = history.following m.journal (r.drop interpreter m).journal →
      Orderly (ended.viewed Entry.milestone?) ∧ Settled (ended.viewed Entry.milestone?)) ∧
    (r.phase ≠ .running →
      (∀ event, r.onEvent interpreter event m = (.ok true, r, m)) ∧
      (∀ name locality sender values,
        r.dispatchCustom interpreter name locality sender values m = (r, m)) ∧
      r.onTick interpreter m = (r, m)) ∧
    (r.phase ≠ .uninitialized →
      r.tryStart interpreter m = (.error (.invalidState r.name r.phase), r, m) ∧
      r.start interpreter m
        = (false, r, m.log (.startFailed r.name (.invalidState r.name r.phase)))) ∧
    (r.stop interpreter m).2.1.phase = .stopped := by
  have hlived := h.sound.lived
  have hasks : interpreter.AsksOnly anyCall := interpreter.asksOnly_anyCall
  refine ⟨⟨hlived.running_iff.1, hlived.running_iff.2, hlived.ne_compiling⟩, ?_, hlived.orderly, ?_,
    ?_, ?_, ?_, (stop_step hasks r m hlived).2.1⟩
  · intro operation
    have hop : operation.Asks anyCall := by
      cases operation <;> exact trivial
    exact (perform_step hasks r m hop hlived).phase
  · intro hphase
    exact (hlived.at_phase hphase).settled
  · rintro ended rfl
    -- the end adds milestones of its own, and the life with them is one of a stopped resource
    rcases drop_step hasks r m hlived with ⟨t, heq, haccounts, -, -, shown, hshown, hlife⟩
    have hended : (history.following m.journal (r.drop interpreter m).journal).viewed
        Entry.milestone? = history.viewed Entry.milestone? ++ shown := by
      rw [heq]
      exact history.viewed_following haccounts.grows hshown
    rw [hended]
    exact ⟨hlife.orderly, hlife.settled⟩
  · intro hphase
    exact ⟨fun event => r.onEvent_of_not_running interpreter hphase event m,
      fun name locality sender values =>
        r.dispatchCustom_of_not_running interpreter hphase name locality sender values m,
      r.onTick_of_not_running interpreter hphase m⟩
  · intro hphase
    exact ⟨r.tryStart_of_not_uninitialized interpreter hphase m,
      r.start_of_not_uninitialized interpreter hphase m⟩

/-- The sample holds a module and a context, and its end gives up both. -/
theorem lifecycle_greeter :
    Sample.started.module.isSome ∧ Sample.started.context.isSome ∧
      Settled ((Sample.history.following Sample.after.journal
        (Sample.started.drop Sample.interpreter Sample.after).journal).viewed
          Entry.milestone?) := by
  rcases lifecycle Sample.reachable with ⟨⟨hmodule, hcontext, -⟩, -, -, -, hended, -⟩
  exact ⟨hmodule.mp Sample.started_phase, hcontext.mp Sample.started_phase, (hended _ rfl).2⟩

end Resource

end ScriptHost
