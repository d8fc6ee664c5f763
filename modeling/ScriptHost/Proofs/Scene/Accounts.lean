import ScriptHost.Proofs.HostFunction.References
import ScriptHost.Proofs.Script.Moves

/-!
# What becomes of a scene

Two relations say what a scene keeps while the host and its scripts work on it.

* `Accounts`: no reference gets lost.  It holds of everything that is done to a scene, a stop
  included.
* `Continues`: besides, nothing that is registered goes away.  It holds of everything that happens
  during a dispatch: whatever the scripts do, and what the host does between two calls.

Both are closed under composition, so they are proved for single moves and hold of whole calls.
-/

namespace ScriptHost

variable {σ : Type}

namespace ArrayTypes

/-- What is recorded about array types: references to them, and the types that are missing. -/
def Records : Entry → Prop
  | .typeRetained _ | .typeReleased _ => True
  | .logged notice => notice.isStarted = false
  | _ => False

theorem Records.functionWeight_eq {entry : Entry} (h : Records entry) (f : FunctionHandle) :
    Journal.functionWeight f entry = 0 := by
  cases entry <;> first | rfl | exact h.elim

theorem Records.creation?_eq {entry : Entry} (h : Records entry) : entry.creation? = none := by
  cases entry <;> first | rfl | exact h.elim

theorem Records.subscription?_eq {entry : Entry} (h : Records entry) :
    entry.subscription? = none := by
  cases entry <;> first | rfl | exact h.elim

theorem Records.milestone?_eq {entry : Entry} (h : Records entry) :
    entry.milestone? = none := by
  cases entry <;> first | rfl | exact h.elim | exact Entry.milestone?_logged h

theorem resolve_grows (module : ScriptModule) (m : Machine σ) :
    m.journal.Grows Records (resolve module m).2.journal := by
  refine (Journal.Grows.refl _).append_map _ ?_
  intro kind
  unfold resolution
  cases (ofModule module).get? kind with
  | none => exact rfl
  | some type => exact trivial

theorem weigh_resolution (module : ScriptModule) (kinds : List ArrayKind)
    (type : ArrayTypeHandle) :
    Journal.weigh (Journal.typeWeight type) (kinds.map (resolution module))
      = (kinds.filterMap (ofModule module).get?).count type := by
  induction kinds with
  | nil => rfl
  | cons kind rest ih =>
    rw [List.map_cons, Journal.weigh_cons, ih, List.filterMap_cons, resolution]
    cases (ofModule module).get? kind with
    | none => simp [Journal.typeWeight]
    | some t =>
      rw [List.count_cons]
      by_cases h : t = type <;> simp [Journal.typeWeight, h, Int.add_comm]

/-- One reference is taken for each kind that is resolved. -/
theorem typeBalance_resolve (module : ScriptModule) (m : Machine σ) (type : ArrayTypeHandle) :
    (resolve module m).2.journal.typeBalance type
      = m.journal.typeBalance type + (ofModule module).held.count type := by
  rw [resolve, Machine.journal_recordAll, Journal.typeBalance_append, weigh_resolution, held]

end ArrayTypes

namespace Scene

/-- The number of timers that scripts created on the way from one scene to a later one. -/
def created (s t : Scene σ) : Nat :=
  t.machine.journal.creations - s.machine.journal.creations

/-- The later scene accounts for all references that the earlier one held, and its timers are
numbered as they should be. -/
structure Accounts (allowed : HostFunction → List HostArgument → Prop) (s t : Scene σ) :
    Prop where
  grows : s.machine.journal.Grows (fun _ => True) t.machine.journal
  wellFormed : s.bindings.timers.WellFormed → t.bindings.timers.WellFormed
  /-- A reference may be left over, but never is one missing. -/
  surplus_le : s.bindings.timers.WellFormed → ∀ f, s.surplus f ≤ t.surplus f
  /-- None is left over if the scripts pass function handles as callbacks only. -/
  surplus_eq : s.bindings.timers.WellFormed →
    (∀ function args, allowed function args → function.WellPlaced args) →
    ∀ f, t.surplus f = s.surplus f
  typeSurplus_eq : ∀ type, t.typeSurplus type = s.typeSurplus type
  numbered : ∀ n, s.bindings.timers.Numbered n → n + s.created t < UInt32.size - 1 →
    t.bindings.timers.Numbered (n + s.created t)

/-- The handlers of host events that the later scene has besides are those of the subscriptions
that have been granted on the way. -/
def Subscribes (s t : Scene σ) : Prop :=
  ∃ added, t.bindings.handlers = s.bindings.handlers ++ added ∧
    t.machine.journal.subscriptions = s.machine.journal.subscriptions ++ added

/-- The later scene still has everything that was registered in the earlier one. -/
structure Continues (allowed : HostFunction → List HostArgument → Prop) (s t : Scene σ) :
    Prop extends s.Accounts allowed t where
  subscribes : s.Subscribes t
  custom : s.bindings.custom.entries <+: t.bindings.custom.entries
  arrays : t.bindings.arrays = s.bindings.arrays
  callbacks : ∀ n, s.bindings.timers.Numbered n → n + s.created t < UInt32.size - 1 →
    ∀ id timer, s.bindings.timers.find? id = some timer →
      ∃ timer', t.bindings.timers.find? id = some timer' ∧ timer'.callback = timer.callback
  milestones : t.machine.journal.viewed Entry.milestone?
    = s.machine.journal.viewed Entry.milestone?

variable {allowed : HostFunction → List HostArgument → Prop} {s t u : Scene σ}

theorem creations_le {kind : Entry → Prop} (h : s.machine.journal.Grows kind t.machine.journal) :
    s.machine.journal.creations ≤ t.machine.journal.creations := by
  rcases h with ⟨es, hes, -⟩
  rw [Journal.creations, Journal.creations, Journal.viewed, Journal.viewed, hes,
    List.filterMap_append, List.length_append]
  exact Nat.le_add_right _ _

theorem created_add {kind kind' : Entry → Prop}
    (h : s.machine.journal.Grows kind t.machine.journal)
    (h' : t.machine.journal.Grows kind' u.machine.journal) :
    s.created u = s.created t + t.created u := by
  have hst := creations_le h
  have htu := creations_le h'
  unfold created
  omega

theorem Subscribes.of_eq (hhandlers : t.bindings.handlers = s.bindings.handlers)
    (hsubscriptions : t.machine.journal.subscriptions = s.machine.journal.subscriptions) :
    s.Subscribes t :=
  ⟨[], by rw [hhandlers, List.append_nil], by rw [hsubscriptions, List.append_nil]⟩

theorem Subscribes.trans (h : s.Subscribes t) (h' : t.Subscribes u) : s.Subscribes u := by
  rcases h with ⟨added, hadded, hsubscribed⟩
  rcases h' with ⟨added', hadded', hsubscribed'⟩
  refine ⟨added ++ added', ?_, ?_⟩
  · rw [hadded', hadded, List.append_assoc]
  · rw [hsubscribed', hsubscribed, List.append_assoc]

/-! ## What the host records about references -/

theorem pinArrayTypes_grows (module : ScriptModule) (s : Scene σ) :
    s.machine.journal.Grows ArrayTypes.Records (s.pinArrayTypes module).machine.journal :=
  (ArrayTypes.resolve_grows module s.machine).append_map _ fun _ => trivial

theorem flushTimers_grows (s : Scene σ) :
    s.machine.journal.Grows (fun e => ∃ f, e = .released f) s.flushTimers.machine.journal :=
  (Journal.Grows.refl _).append_map _ fun f => ⟨f, rfl⟩

theorem releaseAll_grows (s : Scene σ) :
    s.machine.journal.Grows (fun e => (∃ f, e = .released f) ∨ ∃ type, e = .typeReleased type)
      s.releaseAll.machine.journal :=
  ((Journal.Grows.refl _).append_map _ fun f => Or.inl ⟨f, rfl⟩).append_map _
    fun type => Or.inr ⟨type, rfl⟩

section Views

variable {α : Type} {view : Entry → Option α}

theorem viewed_flushTimers (s : Scene σ) (h : ∀ f, view (.released f) = none) :
    s.flushTimers.machine.journal.viewed view = s.machine.journal.viewed view := by
  apply s.flushTimers_grows.viewed_eq
  rintro e ⟨f, rfl⟩
  exact h f

theorem viewed_releaseAll (s : Scene σ) (h : ∀ f, view (.released f) = none)
    (htypes : ∀ type, view (.typeReleased type) = none) :
    s.releaseAll.machine.journal.viewed view = s.machine.journal.viewed view := by
  apply s.releaseAll_grows.viewed_eq
  rintro e (⟨f, rfl⟩ | ⟨type, rfl⟩)
  · exact h f
  · exact htypes type

end Views

/-! ## Composition -/

namespace Accounts

/-- No timer is created, and every reference that moves is accounted for. -/
theorem of_surplus_eq {kind : Entry → Prop}
    (hgrows : s.machine.journal.Grows kind t.machine.journal)
    (hkind : ∀ e, kind e → e.creation? = none)
    (hwell : s.bindings.timers.WellFormed → t.bindings.timers.WellFormed)
    (hsurplus : s.bindings.timers.WellFormed → ∀ f, t.surplus f = s.surplus f)
    (htype : ∀ type, t.typeSurplus type = s.typeSurplus type)
    (hnumbered : ∀ n, s.bindings.timers.Numbered n → t.bindings.timers.Numbered n) :
    s.Accounts allowed t := by
  have hcreated : s.created t = 0 := by
    rw [created, Journal.creations, Journal.creations, hgrows.viewed_eq hkind, Nat.sub_self]
  refine ⟨hgrows.mono fun _ _ => trivial, hwell, ?_, fun hs _ => hsurplus hs, htype, ?_⟩
  · exact fun hs f => Int.le_of_eq (hsurplus hs f).symm
  · intro n hn _
    rw [hcreated]
    exact hnumbered n hn

/-- Nothing is registered and no reference moves. -/
theorem of_quiet (hbindings : t.bindings = s.bindings)
    (hgrows : s.machine.journal.Grows Entry.Quiet t.machine.journal) :
    s.Accounts allowed t := by
  refine of_surplus_eq hgrows (fun _ he => he.creation?_eq) ?_ ?_ ?_ ?_
  · rw [hbindings]
    exact id
  · intro _ f
    rw [surplus, surplus, hbindings, hgrows.functionBalance_eq]
  · intro type
    rw [typeSurplus, typeSurplus, hbindings, hgrows.typeBalance_eq]
  · rw [hbindings]
    exact fun _ => id

theorem trans (h : s.Accounts allowed t) (h' : t.Accounts allowed u) : s.Accounts allowed u := by
  have hcreated := created_add h.grows h'.grows
  constructor
  · exact h.grows.trans h'.grows
  · exact fun hs => h'.wellFormed (h.wellFormed hs)
  · exact fun hs f => Int.le_trans (h.surplus_le hs f) (h'.surplus_le (h.wellFormed hs) f)
  · intro hs hplaced f
    rw [h'.surplus_eq (h.wellFormed hs) hplaced f, h.surplus_eq hs hplaced f]
  · intro type
    rw [h'.typeSurplus_eq type, h.typeSurplus_eq type]
  · intro n hn hbound
    -- the timers of the second way are numbered on from those of the first
    rw [hcreated, ← Nat.add_assoc] at hbound ⊢
    exact h'.numbered _ (h.numbered n hn (by omega)) hbound

/-! ## Giving references back -/

/-- What a flush takes from the table it gives back. -/
theorem flushTimers (s : Scene σ) : s.Accounts allowed s.flushTimers := by
  refine of_surplus_eq s.flushTimers_grows ?_ (fun h => h.flush) ?_ ?_ (fun _ h => h.flush)
  · rintro e ⟨f, rfl⟩
    rfl
  · intro hs f
    have hperm := (TimerTable.flush_callbacks_perm hs).count_eq f
    rw [List.count_append] at hperm
    simp only [surplus, journal_flushTimers, Journal.functionBalance_append_released,
      bindings_flushTimers, Bindings.callbacks, List.count_append]
    omega
  · intro type
    rw [typeSurplus, journal_flushTimers, Journal.typeBalance_append,
      Journal.weigh_map_eq_zero _ fun _ => rfl, Int.add_zero, bindings_flushTimers, typeSurplus]

/-- New array types are pinned before the old ones are given back. -/
theorem pinArrayTypes (s : Scene σ) (module : ScriptModule) :
    s.Accounts allowed (s.pinArrayTypes module) := by
  refine of_surplus_eq (s.pinArrayTypes_grows module) ?_ id ?_ ?_ (fun _ => id)
  · exact fun e he => he.creation?_eq
  · intro _ f
    have hbalance : (s.pinArrayTypes module).machine.journal.functionBalance f
        = s.machine.journal.functionBalance f :=
      (s.pinArrayTypes_grows module).weigh_eq fun e he => he.functionWeight_eq f
    rw [surplus, hbalance]
    rfl
  · intro type
    have harrays : (s.pinArrayTypes module).bindings.arrays = ArrayTypes.ofModule module := rfl
    rw [typeSurplus, harrays, journal_pinArrayTypes, Journal.typeBalance_append_released,
      ArrayTypes.typeBalance_resolve, typeSurplus]
    omega

/-- The bindings are emptied, and all that they held is given back. -/
theorem releaseAll (s : Scene σ) : s.Accounts allowed s.releaseAll := by
  refine of_surplus_eq s.releaseAll_grows ?_ (fun _ => TimerTable.WellFormed.clear _) ?_ ?_
    (fun _ h => h.clear)
  · rintro e (⟨f, rfl⟩ | ⟨type, rfl⟩) <;> rfl
  · intro _ f
    have hcallbacks : s.releaseAll.bindings.callbacks = [] := rfl
    rw [surplus, journal_releaseAll, Journal.functionBalance_append,
      Journal.weigh_map_eq_zero _ fun _ => rfl, Journal.functionBalance_append_released,
      hcallbacks, surplus, List.count_nil]
    omega
  · intro type
    have harrays : s.releaseAll.bindings.arrays.held = [] := rfl
    rw [typeSurplus, journal_releaseAll, Journal.typeBalance_append_released,
      Journal.typeBalance_append, Journal.weigh_map_eq_zero _ fun _ => rfl, harrays, typeSurplus,
      List.count_nil]
    omega

end Accounts

namespace Continues

/-- Nothing is registered, no reference moves and nothing marks the life of the resource. -/
theorem of_plain (hbindings : t.bindings = s.bindings)
    (hgrows : s.machine.journal.Grows Entry.Plain t.machine.journal) :
    s.Continues allowed t := by
  have hquiet : s.machine.journal.Grows Entry.Quiet t.machine.journal :=
    hgrows.mono fun _ he => he.1
  refine ⟨.of_quiet hbindings hquiet, .of_eq (by rw [hbindings]) hquiet.subscriptions_eq, ?_, ?_,
    ?_, ?_⟩
  · simp [hbindings]
  · rw [hbindings]
  · intro n _ _ id timer hfind
    exact ⟨timer, by rw [hbindings, hfind], rfl⟩
  · exact hgrows.milestones_eq

theorem refl (s : Scene σ) : s.Continues allowed s :=
  of_plain rfl (.refl _)

theorem trans (h : s.Continues allowed t) (h' : t.Continues allowed u) :
    s.Continues allowed u := by
  have hcreated := created_add h.grows h'.grows
  refine ⟨h.toAccounts.trans h'.toAccounts, h.subscribes.trans h'.subscribes, ?_, ?_, ?_, ?_⟩
  · exact h.custom.trans h'.custom
  · rw [h'.arrays, h.arrays]
  · intro n hn hbound id timer hfind
    rw [hcreated] at hbound
    rcases h.callbacks n hn (by omega) id timer hfind with ⟨timer', hfind', heq'⟩
    rcases h'.callbacks _ (h.numbered n hn (by omega)) (by omega) id timer' hfind'
      with ⟨timer'', hfind'', heq''⟩
    exact ⟨timer'', hfind'', heq''.trans heq'⟩
  · rw [h'.milestones, h.milestones]

/-! ## Scripts -/

/-- Whatever host function a script calls, nothing is taken from the tables. -/
theorem hostCall (interpreter : Interpreter σ) {function : HostFunction} (userData : UserData)
    {args : List HostArgument} (hallowed : allowed function args) (s : Scene σ) :
    s.Continues allowed (function.runCounted interpreter userData args s).2 := by
  rcases function.runCounted_effect interpreter userData args s with ⟨result, t, heffect, heq⟩
  rw [heq]
  show s.Continues allowed (t.record (.served function userData args result))
  have hcreations := heffect.viewed_eq userData Entry.creation? (fun _ => rfl) (fun _ => rfl)
    (fun _ _ => rfl)
  have hsubscriptions := heffect.viewed_eq userData Entry.subscription? (fun _ => rfl)
    (fun _ => rfl) (fun _ _ => rfl)
  have hmilestones := heffect.viewed_eq userData Entry.milestone? (fun _ => rfl) (fun _ => rfl)
    (fun _ hnotice => Entry.milestone?_logged hnotice)
  have hcreated : s.created (t.record (.served function userData args result))
      = (Entry.served function userData args result).creation?.toList.length := by
    rw [created, Journal.creations, hcreations, List.length_append]
    exact Nat.add_sub_cancel_left _ _
  have hgrows : s.machine.journal.Grows (fun _ => True)
      (t.record (.served function userData args result)).machine.journal := by
    have hretained : s.machine.journal.Grows (fun _ => True)
        (s.retainAll (functionHandles args)).machine.journal :=
      (Journal.Grows.refl _).append fun _ _ => trivial
    exact (hretained.trans (heffect.grows.mono fun _ _ => trivial)).push trivial
  refine ⟨⟨hgrows, heffect.wellFormed, ?_, ?_, ?_, ?_⟩,
    ⟨_, heffect.handlers_eq userData, hsubscriptions⟩, heffect.custom_prefix,
    heffect.arrays_eq, ?_, ?_⟩
  · intro hs f
    -- handles that are not read as callbacks stay counted, so references can only be left over
    have hsurplus := heffect.surplus_served userData hs f
    have hle := function.callback?_count_le args f
    omega
  · intro hs hplaced f
    -- and none is, if there are no such handles
    have hsurplus := heffect.surplus_served userData hs f
    rw [(hplaced function args hallowed).functionHandles_eq] at hsurplus
    omega
  · intro type
    rw [typeSurplus, heffect.typeBalance_eq userData, typeSurplus, bindings_record,
      heffect.arrays_eq, bindings_retainAll]
  · intro n hn hbound
    rw [hcreated] at hbound ⊢
    exact heffect.numbered userData hn hbound
  · intro n hn _ id timer hfind
    exact ⟨timer, heffect.callback_find? hn hfind, rfl⟩
  · rw [hmilestones]
    exact List.append_nil _

theorem of_move {interpreter : Interpreter σ} (h : ScriptMove interpreter allowed s t) :
    s.Continues allowed t := by
  cases h with
  | work engine => exact of_plain rfl (.refl _)
  | report report =>
    exact of_plain rfl ((Journal.Grows.refl _).push ⟨trivial, rfl⟩)
  | wait offset => exact of_plain rfl (.refl _)
  | hostCall function userData args hallowed => exact hostCall interpreter userData hallowed s

theorem of_moves {interpreter : Interpreter σ} (h : ScriptMoves interpreter allowed s t) :
    s.Continues allowed t := by
  induction h with
  | refl => exact refl s
  | tail _ hmove ih => exact ih.trans (of_move hmove)

/-! ## The host -/

theorem log {notice : Notice} (h : notice.isStarted = false) : s.Continues allowed (s.log notice) :=
  of_plain rfl ((Journal.Grows.refl _).push ⟨trivial, Entry.milestone?_logged h⟩)

/-- The timer table changes, but not what it would call. -/
theorem of_timers {table : TimerTable} (hmachine : t.machine = s.machine)
    (hbindings : t.bindings = { s.bindings with timers := table })
    (hwell : s.bindings.timers.WellFormed → table.WellFormed)
    (hperm : s.bindings.timers.WellFormed → table.callbacks.Perm s.bindings.timers.callbacks)
    (hnumbered : ∀ n, s.bindings.timers.Numbered n → table.Numbered n)
    (hfind : ∀ id, (table.find? id).map (·.callback)
      = (s.bindings.timers.find? id).map (·.callback)) : s.Continues allowed t := by
  have hgrows : s.machine.journal.Grows Entry.Quiet t.machine.journal := by
    rw [hmachine]
    exact .refl _
  have haccounts : s.Accounts allowed t := by
    refine .of_surplus_eq hgrows (fun _ he => he.creation?_eq) ?_ ?_ ?_ ?_
    · rw [hbindings]
      exact hwell
    · intro hs f
      simp only [surplus, hmachine, hbindings, Bindings.callbacks, List.count_append,
        (hperm hs).count_eq f]
    · intro type
      rw [typeSurplus, typeSurplus, hmachine, hbindings]
    · rw [hbindings]
      exact hnumbered
  refine ⟨haccounts, .of_eq (by rw [hbindings]) (by rw [hmachine]), ?_, ?_, ?_, ?_⟩
  · simp [hbindings]
  · rw [hbindings]
  · intro n _ _ id timer htimer
    -- the entry can be another one, with a later time, but for the same callback
    have hmap := hfind id
    rw [htimer] at hmap
    rw [hbindings]
    exact Option.map_eq_some_iff.mp hmap
  · rw [hmachine]

theorem pollTimer (s : Scene σ) (id : UInt32) : s.Continues allowed (s.pollTimer id).2 :=
  of_timers rfl rfl (fun h => h.poll id _)
    (fun h => TimerTable.poll_callbacks_perm h id s.machine.now) (fun _ h => h.poll id _)
    (fun other => TimerTable.callback_poll _ other id _)

theorem removeTimer (s : Scene σ) (id : UInt32) : s.Continues allowed (s.removeTimer id) :=
  of_timers rfl rfl (fun h => h.remove id)
    (fun _ => by rw [TimerTable.remove_callbacks]) (fun _ h => h.remove id)
    (fun other => by rw [TimerTable.find?_remove])

end Continues

end Scene

end ScriptHost
