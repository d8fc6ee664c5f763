import ScriptHost.Proofs.HostFunction.Ownership
import ScriptHost.Proofs.Resource.SceneMoves

/-!
# Every callback is settled once

With each callback that a script passes to a host function the host takes over a reference.  At any
point of a run the reference is either held by an entry of the bindings or has been given back, and
never both: `Reachable.settled` counts them for every function, whatever the scripts do.  A
resource that has come to its end has given all of them back (`Reachable.drop_settled`).
-/

namespace ScriptHost

variable {σ : Type} {interpreter : Interpreter σ}

/-- The callback that a script passed to a host function. -/
def Entry.takeover? : Entry → Option FunctionHandle
  | served function _ args _ => function.callback? args
  | _ => none

theorem Entry.Quiet.takeover?_eq {entry : Entry} (h : entry.Quiet) : entry.takeover? = none := by
  cases entry <;> first | rfl | exact h.elim

namespace Scene

/-- The references to a function that the entries of the bindings hold, and those given back. -/
def settled (s : Scene σ) (f : FunctionHandle) : Nat :=
  s.bindings.callbacks.count f + (s.machine.journal.viewed Entry.released?).count f

/-- The references to a function that have been taken over. -/
def takenOver (s : Scene σ) (f : FunctionHandle) : Nat :=
  (s.machine.journal.viewed Entry.takeover?).count f

/-- Each reference taken over on the way is held by one more entry, or has been given back. -/
structure Settles (s t : Scene σ) : Prop where
  wellFormed : s.bindings.timers.WellFormed → t.bindings.timers.WellFormed
  settled_eq : s.bindings.timers.WellFormed → ∀ f,
    t.settled f + s.takenOver f = s.settled f + t.takenOver f

variable {stored returned displaced : List FunctionHandle} {s t u : Scene σ}

theorem Absorbs.settled_eq (h : s.Absorbs stored returned displaced t) (f : FunctionHandle) :
    t.settled f = s.settled f + (stored ++ returned).count f := by
  have hentries := h.entries_perm.count_eq f
  rw [List.count_append, List.count_append] at hentries
  unfold settled
  rw [h.released_eq]
  simp only [List.count_append]
  omega

namespace Settles

theorem refl (s : Scene σ) : s.Settles s :=
  ⟨id, fun _ _ => rfl⟩

theorem trans (h : s.Settles t) (h' : t.Settles u) : s.Settles u := by
  refine ⟨fun hs => h'.wellFormed (h.wellFormed hs), ?_⟩
  intro hs f
  have hfirst := h.settled_eq hs f
  have hsecond := h'.settled_eq (h.wellFormed hs) f
  omega

/-- Nothing is taken over. -/
theorem of_absorbs (displaced : List FunctionHandle)
    (habsorbs : s.bindings.timers.WellFormed → s.Absorbs [] [] displaced t)
    (htaken : t.machine.journal.viewed Entry.takeover?
      = s.machine.journal.viewed Entry.takeover?)
    (hwell : s.bindings.timers.WellFormed → t.bindings.timers.WellFormed) : s.Settles t := by
  refine ⟨hwell, ?_⟩
  intro hs f
  have hsettled := (habsorbs hs).settled_eq f
  rw [takenOver, takenOver, htaken, hsettled]
  rfl

theorem of_quiet (hbindings : t.bindings = s.bindings)
    (hgrows : s.machine.journal.Grows Entry.Quiet t.machine.journal) : s.Settles t := by
  refine of_absorbs [] (fun _ => absorbs_of_quiet (by rw [hbindings]) hgrows) ?_ ?_
  · exact hgrows.viewed_eq fun _ he => he.takeover?_eq
  · rw [hbindings]
    exact id

theorem log (s : Scene σ) (notice : Notice) : s.Settles (s.log notice) :=
  of_quiet rfl ((Journal.Grows.refl _).push trivial)

/-- The timer table changes, but not what it would call. -/
theorem of_timers {table : TimerTable} (hmachine : t.machine = s.machine)
    (hbindings : t.bindings = { s.bindings with timers := table })
    (hwell : s.bindings.timers.WellFormed → table.WellFormed)
    (hperm : s.bindings.timers.WellFormed → table.callbacks.Perm s.bindings.timers.callbacks) :
    s.Settles t := by
  refine ⟨?_, ?_⟩
  · rw [hbindings]
    exact hwell
  · intro hs f
    simp only [settled, takenOver, hmachine, hbindings, Bindings.callbacks, List.count_append,
      (hperm hs).count_eq f]

theorem pollTimer (s : Scene σ) (id : UInt32) : s.Settles (s.pollTimer id).2 :=
  of_timers rfl rfl (fun h => h.poll id _)
    fun h => TimerTable.poll_callbacks_perm h id s.machine.now

theorem removeTimer (s : Scene σ) (id : UInt32) : s.Settles (s.removeTimer id) :=
  of_timers rfl rfl (fun h => h.remove id) fun _ => by rw [TimerTable.remove_callbacks]

/-! ### Scripts -/

/-- The callback of a host function ends up in an entry, or is given back. -/
theorem hostCall (interpreter : Interpreter σ) (function : HostFunction) (userData : UserData)
    (args : List HostArgument) (s : Scene σ) :
    s.Settles (function.runCounted interpreter userData args s).2 := by
  obtain ⟨result, t, heffect, heq⟩ := function.runCounted_effect interpreter userData args s
  rw [heq]
  refine ⟨heffect.wellFormed, ?_⟩
  intro hs f
  have htaken := heffect.viewed_eq userData Entry.takeover? (fun _ => rfl) (fun _ => rfl)
    (fun _ _ => rfl)
  have hstart : (s.retainAll (functionHandles args)).settled f = s.settled f := by
    rw [settled, journal_retainAll, Journal.viewed_append_map _ fun _ => rfl]
    rfl
  have hend : (t.record (.served function userData args result)).settled f = t.settled f := by
    rw [settled, journal_record, Journal.viewed_push]
    simp [Entry.released?, settled]
  have hcallback : t.settled f
      = (s.retainAll (functionHandles args)).settled f
        + (function.callback? args).toList.count f := by
    obtain ⟨displaced, habsorbs⟩ := heffect.absorbs hs
    cases result with
    | ok answer =>
      have hcount := habsorbs.settled_eq f
      rwa [List.append_nil] at hcount
    | error e => exact habsorbs.settled_eq f
  rw [hend, hcallback, hstart, takenOver, takenOver, htaken, List.count_append]
  show _ = _ + (_ + (function.callback? args).toList.count f)
  omega

theorem of_move {allowed : HostFunction → List HostArgument → Prop}
    (h : ScriptMove interpreter allowed s t) : s.Settles t := by
  cases h with
  | work engine => exact of_quiet rfl (.refl _)
  | report report => exact of_quiet rfl ((Journal.Grows.refl _).push trivial)
  | wait offset => exact of_quiet rfl (.refl _)
  | hostCall function userData args => exact hostCall interpreter function userData args s

theorem of_moves {allowed : HostFunction → List HostArgument → Prop}
    (h : ScriptMoves interpreter allowed s t) : s.Settles t := by
  induction h with
  | refl => exact refl s
  | tail _ hmove ih => exact ih.trans (of_move hmove)

/-! ### The host -/

theorem of_logs (h : Relation.ReflTransGen LogMove s t) : s.Settles t := by
  induction h with
  | refl => exact refl s
  | tail _ hmove ih =>
    cases hmove with
    | log => exact ih.trans (log _ _)

theorem of_hostMove (h : HostMove s t) : s.Settles t := by
  cases h with
  | log h => exact of_logs (.single h)
  | work engine => exact of_quiet rfl (.refl _)
  | pollTimer id => exact pollTimer s id
  | removeTimer id => exact removeTimer s id

theorem pinArrayTypes (s : Scene σ) (module : ScriptModule) :
    s.Settles (s.pinArrayTypes module) := by
  have hgrows := s.pinArrayTypes_grows module
  have hview : ∀ view : Entry → Option FunctionHandle,
      (∀ e, ArrayTypes.Records e → view e = none) →
      (s.pinArrayTypes module).machine.journal.viewed view = s.machine.journal.viewed view :=
    fun _ hnone => hgrows.viewed_eq hnone
  have hreleased := hview Entry.released? fun e he => by
    cases e <;> first | rfl | exact he.elim
  have htaken := hview Entry.takeover? fun e he => by
    cases e <;> first | rfl | exact he.elim
  refine ⟨id, ?_⟩
  intro _ f
  rw [settled, takenOver, takenOver, htaken, hreleased]
  rfl

/-- What a flush takes from the table it gives back. -/
theorem flushTimers (s : Scene σ) : s.Settles s.flushTimers := by
  refine of_absorbs s.bindings.timers.flush.1 ?_ ?_ fun h => h.flush
  · intro hs
    refine ⟨?_, ?_, ?_⟩
    · refine List.perm_iff_count.mpr fun f => ?_
      have hcount := (TimerTable.flush_callbacks_perm hs).count_eq f
      rw [List.count_append] at hcount
      simp only [bindings_flushTimers, Bindings.callbacks, List.count_append, List.count_nil]
      omega
    · rw [journal_flushTimers, Journal.viewed_append, Entry.filterMap_released?_map]
      rfl
    · exact Journal.viewed_append_map _ (fun _ => rfl) _ _
  · exact Journal.viewed_append_map _ (fun _ => rfl) _ _

/-- Everything that the bindings hold is given back. -/
theorem releaseAll (s : Scene σ) : s.Settles s.releaseAll := by
  refine of_absorbs s.bindings.callbacks ?_ ?_ fun _ => TimerTable.WellFormed.clear _
  · intro _
    refine ⟨?_, ?_, ?_⟩
    · have hnone : s.releaseAll.bindings.callbacks = [] := rfl
      rw [hnone, List.append_nil, List.nil_append]
    · rw [journal_releaseAll, Journal.viewed_append_map _ fun _ => rfl, Journal.viewed_append,
        Entry.filterMap_released?_map]
      rfl
    · rw [journal_releaseAll, Journal.viewed_append_map _ fun _ => rfl,
        Journal.viewed_append_map _ fun _ => rfl]
  · rw [journal_releaseAll, Journal.viewed_append_map _ fun _ => rfl,
      Journal.viewed_append_map _ fun _ => rfl]

theorem runTimer (r : Resource σ) (context : ContextHandle) (id : UInt32) (s : Scene σ) :
    s.Settles (r.runTimer interpreter (some context) id s) := by
  rcases r.runTimer_cases interpreter context id s with heq | ⟨timer, t, u, -, hmoves, hlogs, heq⟩
  · rw [heq]
    exact refl s
  · have hannounce : (s.pollTimer id).2.Settles
        ((s.pollTimer id).2.record (.called (.timer id) timer.callback [])) :=
      of_quiet rfl ((Journal.Grows.refl _).push trivial)
    have hcalled := (pollTimer s id).trans (hannounce.trans (of_moves hmoves))
    have hend : u.Settles (if timer.once then u.removeTimer id else u) := by
      cases timer.once with
      | false => exact refl u
      | true => exact removeTimer u id
    rw [heq]
    exact hcalled.trans ((of_logs hlogs).trans hend)

theorem of_sceneMoves (h : SceneMoves interpreter s t) : s.Settles t := by
  induction h with
  | refl => exact refl s
  | tail _ hmove ih =>
    refine ih.trans ?_
    cases hmove with
    | silent hbindings hgrows => exact of_quiet hbindings (hgrows.mono fun _ he => he.1)
    | announce => exact of_quiet rfl ((Journal.Grows.refl _).push trivial)
    | script h => exact of_move h
    | host h => exact of_hostMove h
    | pinArrayTypes module => exact pinArrayTypes _ module
    | flushTimers => exact flushTimers _
    | releaseAll => exact releaseAll _
    | runTimer r context id => exact runTimer r context id _

end Settles

end Scene

/-! ## Runs -/

/-- What settles a scene settles the history of its resource. -/
theorem Scene.Settles.following {s t : Scene σ} (h : s.Settles t) (history : Journal)
    (hgrows : s.machine.journal.Grows (fun _ => True) t.machine.journal)
    (hs : s.bindings.timers.WellFormed) {f : FunctionHandle}
    (hsettled : (history.viewed Entry.takeover?).count f
      = s.bindings.callbacks.count f + (history.viewed Entry.released?).count f) :
    ((history.following s.machine.journal t.machine.journal).viewed Entry.takeover?).count f
      = t.bindings.callbacks.count f
        + ((history.following s.machine.journal t.machine.journal).viewed
            Entry.released?).count f := by
  have htaken := history.count_following Entry.takeover? f hgrows
  have hreleased := history.count_following Entry.released? f hgrows
  have hstep := h.settled_eq hs f
  unfold Scene.settled Scene.takenOver at hstep
  omega

namespace Resource

variable {history : Journal} {r : Resource σ} {m : Machine σ}

/-- Each reference that came with a callback is held by an entry, or has been given back once. -/
theorem Reachable.settled (h : Reachable interpreter history r m) (f : FunctionHandle) :
    (history.viewed Entry.takeover?).count f
      = r.bindings.callbacks.count f + (history.viewed Entry.released?).count f := by
  induction h with
  | created => rfl
  | @performed history r m operation h ih =>
    have hsound := h.sound
    have hmoves := r.perform_moves interpreter hsound.lived.context_isSome m operation
    exact (Scene.Settles.of_sceneMoves hmoves).following history
      (perform_grows interpreter r m hsound.lived operation) hsound.covers.wellFormed ih
  | elsewhere _ _ ih => exact ih

/-- At its end a resource has given all of them back. -/
theorem Reachable.drop_settled (h : Reachable interpreter history r m) (f : FunctionHandle) :
    ((history.following m.journal (r.drop interpreter m).journal).viewed
        Entry.takeover?).count f
      = ((history.following m.journal (r.drop interpreter m).journal).viewed
        Entry.released?).count f := by
  have hsound := h.sound
  have hgrows := drop_grows interpreter r m hsound.lived
  obtain ⟨t, heq, hmoves, hcallbacks⟩ := r.drop_moves interpreter m
  rw [heq] at hgrows ⊢
  have hsettled := (Scene.Settles.of_sceneMoves hmoves).following history hgrows
    hsound.covers.wellFormed (h.settled f)
  rw [hcallbacks, List.count_nil, Nat.zero_add] at hsettled
  exact hsettled

end Resource

end ScriptHost
