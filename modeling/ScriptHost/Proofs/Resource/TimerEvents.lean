import ScriptHost.Proofs.Resource.SceneMoves
import ScriptHost.Proofs.Timer.Retirement

/-!
# Timers while a resource works

`Journal.timerEvents` reads off the journal what has happened to the timers of a resource.
`Scene.Follows` says of a piece of work which events it tells of, and that the timer table goes on
agreeing with the events so far.  It is proved for what scripts do (`ScriptMove.timerStep`), then
for every `SceneMove`; a timer that is run passes through three stages, since its callback works
while it is spent and not yet queued.
-/

namespace ScriptHost

variable {σ : Type} {interpreter : Interpreter σ}

/-! ## Events -/

/-- What an entry tells about a timer. -/
def Entry.timerEvent? : Entry → Option TimerEvent
  | served (.setTimer _ once) _ _ (.ok (.scalar (.uint32 id))) => some (.created id once)
  | served .clearTimer _ args (.ok _) => (uintAt args 0).toOption.map .cleared
  | called (.timer id) _ _ => some (.called id)
  | _ => none

namespace Entry

theorem Silent.timerEvent?_eq {entry : Entry} (h : entry.Silent) : entry.timerEvent? = none := by
  cases entry with
  | served => exact h.1.elim
  | called => cases h.2
  | _ => rfl

theorem timerEvent?_announced {cause : CallCause} (function : FunctionHandle)
    (args : List Argument) (h : ∀ id, cause ≠ .timer id) :
    (called cause function args).timerEvent? = none := by
  cases cause with
  | timer id => exact absurd rfl (h id)
  | entrypoint | stop | event | custom => rfl

theorem timerEvent?_error (function : HostFunction) (userData : UserData)
    (args : List HostArgument) (e : HostCallError) :
    (served function userData args (.error e)).timerEvent? = none := by
  cases function <;> rfl

/-- Each timer that is told to have been created counts as a creation. -/
theorem creation?_isSome {entry : Entry} {id : UInt32} {once : Bool}
    (h : entry.timerEvent? = some (.created id once)) : entry.creation?.isSome := by
  unfold timerEvent? at h
  split at h
  · rfl
  · obtain ⟨_, _, hevent⟩ := Option.map_eq_some_iff.mp h
    cases hevent
  · cases h
  · cases h

end Entry

/-- What the journal tells about timers, oldest first. -/
def Journal.timerEvents (journal : Journal) : List TimerEvent :=
  journal.viewed Entry.timerEvent?

theorem Journal.creations_timerEvents_le (journal : Journal) :
    TimerEvent.creations journal.timerEvents ≤ journal.creations := by
  unfold TimerEvent.creations timerEvents creations viewed
  induction journal.toList with
  | nil => exact Nat.le_refl 0
  | cons entry rest ih =>
    have hrest : (rest.filterMap Entry.creation?).length
        ≤ ((entry :: rest).filterMap Entry.creation?).length :=
      ((List.sublist_cons_self entry rest).filterMap Entry.creation?).length_le
    cases hevent : entry.timerEvent? with
    | none =>
      rw [List.filterMap_cons_none hevent]
      exact Nat.le_trans ih hrest
    | some event =>
      rw [List.filterMap_cons_some hevent, List.countP_cons]
      cases event with
      | created id once =>
        obtain ⟨answer, hanswer⟩ := Option.isSome_iff_exists.mp (Entry.creation?_isSome hevent)
        rw [List.filterMap_cons_some hanswer, List.length_cons]
        exact Nat.succ_le_succ ih
      | cleared | called => exact Nat.le_trans ih hrest

/-! ## Scripts -/

/-- A host function that is answered: its timer is created, or the timer is cleared, or there is
nothing to tell. -/
theorem HostFunction.timerStep (interpreter : Interpreter σ) (function : HostFunction)
    (userData : UserData) (args : List HostArgument) (s : Scene σ) :
    ∃ shown,
      (function.runCounted interpreter userData args s).2.machine.journal.timerEvents
        = s.machine.journal.timerEvents ++ shown ∧
      s.bindings.timers.ScriptStep shown
        (function.runCounted interpreter userData args s).2.bindings.timers := by
  obtain ⟨result, t, heffect, heq⟩ := function.runCounted_effect interpreter userData args s
  rw [heq]
  have htold := heffect.viewed_eq userData Entry.timerEvent? (fun _ => rfl) (fun _ => rfl)
    (fun _ _ => rfl)
  refine ⟨(Entry.served function userData args result).timerEvent?.toList, htold, ?_⟩
  rw [Scene.bindings_record]
  cases heffect with
  | refused =>
    rw [Entry.timerEvent?_error]
    exact .nothing
  | gaveBack =>
    rw [Entry.timerEvent?_error]
    exact .nothing
  | @createdTimer delayIndex once args callback s delay h =>
    exact .created (milliseconds delay.toNat) callback once s.machine.now
  | @clearedTimer args s id h =>
    have hevent : (Entry.served .clearTimer userData args (.ok .void)).timerEvent?
        = some (.cleared id) := by
      rw [Entry.timerEvent?, h]
      rfl
    rw [hevent]
    exact .cleared id
  | subscribedCustom | subscribed | createdArray | logged => exact .nothing

theorem ScriptMove.timerStep {allowed : HostFunction → List HostArgument → Prop} {s t : Scene σ}
    (h : ScriptMove interpreter allowed s t) :
    ∃ shown, t.machine.journal.timerEvents = s.machine.journal.timerEvents ++ shown ∧
      s.bindings.timers.ScriptStep shown t.bindings.timers := by
  cases h with
  | work engine => exact ⟨[], (List.append_nil _).symm, .nothing⟩
  | report report => exact ⟨[], Journal.viewed_push _ _ _, .nothing⟩
  | wait offset => exact ⟨[], (List.append_nil _).symm, .nothing⟩
  | hostCall function userData args =>
    exact HostFunction.timerStep interpreter function userData args s

namespace Scene

/-- On the way from one scene to the next the journal tells of the events `shown`, and a table that
agreed with the events before agrees with them all. -/
structure Follows (running running' : Option UInt32) (shown : List TimerEvent) (s t : Scene σ) :
    Prop where
  told : t.machine.journal.timerEvents = s.machine.journal.timerEvents ++ shown
  agrees : ∀ gone events, s.bindings.timers.Agrees running gone events →
    TimerEvent.creations (events ++ shown) < UInt32.size - 1 →
    t.bindings.timers.Agrees running' gone (events ++ shown)

namespace Follows

variable {running running' running'' : Option UInt32} {shown shown' : List TimerEvent}
  {s t u : Scene σ}

/-- Nothing is told, and the table is as before. -/
theorem of_table_eq (htold : t.machine.journal.timerEvents = s.machine.journal.timerEvents)
    (htimers : t.bindings.timers = s.bindings.timers) : Follows running running [] s t := by
  refine ⟨htold.trans (List.append_nil _).symm, ?_⟩
  intro gone events h _
  rw [htimers, List.append_nil]
  exact h

theorem refl (s : Scene σ) : Follows running running [] s s :=
  of_table_eq rfl rfl

theorem trans (h : Follows running running' shown s t)
    (h' : Follows running' running'' shown' t u) :
    Follows running running'' (shown ++ shown') s u := by
  refine ⟨?_, ?_⟩
  · rw [h'.told, h.told, List.append_assoc]
  · intro gone events hs hbound
    rw [← List.append_assoc] at hbound ⊢
    have hfirst : TimerEvent.creations (events ++ shown) < UInt32.size - 1 := by
      rw [TimerEvent.creations, List.countP_append] at hbound
      exact Nat.lt_of_le_of_lt (Nat.le_add_right _ _) hbound
    exact h'.agrees gone _ (h.agrees gone events hs hfirst) hbound

/-- The table is used in a way that nothing is told of. -/
theorem of_perform (operation : TimerOperation) (hop : operation.isCreate = false)
    (htold : t.machine.journal.timerEvents = s.machine.journal.timerEvents)
    (htimers : t.bindings.timers = s.bindings.timers.perform operation) :
    Follows running running [] s t := by
  refine ⟨htold.trans (List.append_nil _).symm, ?_⟩
  intro gone events h _
  rw [htimers, List.append_nil]
  exact h.perform hop

theorem of_silent (hbindings : t.bindings = s.bindings)
    (hgrows : s.machine.journal.Grows Entry.Silent t.machine.journal) :
    Follows running running [] s t :=
  of_table_eq (hgrows.viewed_eq fun _ he => he.timerEvent?_eq) (by rw [hbindings])

theorem log (s : Scene σ) (notice : Notice) : Follows running running [] s (s.log notice) :=
  of_silent rfl ((Journal.Grows.refl _).push ⟨trivial, rfl⟩)

theorem pollTimer (s : Scene σ) (id : UInt32) : Follows running running [] s (s.pollTimer id).2 :=
  of_perform (.poll id s.machine.now) rfl rfl rfl

theorem removeTimer (s : Scene σ) (id : UInt32) : Follows running running [] s (s.removeTimer id) :=
  of_perform (.remove id) rfl rfl rfl

/-! ### Scripts -/

theorem of_move {allowed : HostFunction → List HostArgument → Prop}
    (h : ScriptMove interpreter allowed s t) : ∃ shown, Follows running running shown s t := by
  obtain ⟨shown, htold, hstep⟩ := h.timerStep
  exact ⟨shown, htold, fun gone events hagrees hbound => hagrees.scriptStep hstep hbound⟩

theorem of_moves {allowed : HostFunction → List HostArgument → Prop}
    (h : ScriptMoves interpreter allowed s t) : ∃ shown, Follows running running shown s t := by
  induction h with
  | refl => exact ⟨[], refl s⟩
  | tail _ hmove ih =>
    obtain ⟨shown, hshown⟩ := ih
    obtain ⟨shown', hshown'⟩ := of_move hmove
    exact ⟨shown ++ shown', hshown.trans hshown'⟩

/-! ### The host -/

theorem of_logs (h : Relation.ReflTransGen LogMove s t) : Follows running running [] s t := by
  induction h with
  | refl => exact refl s
  | tail _ hmove ih =>
    cases hmove with
    | log => exact ih.trans (log _ _)

theorem of_hostMove (h : HostMove s t) : Follows running running [] s t := by
  cases h with
  | log h => exact of_logs (.single h)
  | work engine => exact of_silent rfl (.refl _)
  | pollTimer id => exact pollTimer s id
  | removeTimer id => exact removeTimer s id

theorem pinArrayTypes (s : Scene σ) (module : ScriptModule) :
    Follows running running [] s (s.pinArrayTypes module) := by
  refine of_table_eq ((s.pinArrayTypes_grows module).viewed_eq ?_) rfl
  intro e he
  cases e <;> first | rfl | exact he.elim

theorem flushTimers (s : Scene σ) : Follows running running [] s s.flushTimers :=
  of_perform .flush rfl (s.viewed_flushTimers fun _ => rfl) rfl

theorem releaseAll (s : Scene σ) : Follows running running [] s s.releaseAll :=
  of_perform .clear rfl (s.viewed_releaseAll (fun _ => rfl) fun _ => rfl) rfl

/-- The callback of a timer that a poll has found is announced. -/
theorem announce {id : UInt32} {timer : Timer} (hfind : s.bindings.timers.find? id = some timer)
    (hactive : s.bindings.timers.isPending id = false) (function : FunctionHandle)
    (args : List Argument) :
    Follows none (some id) [.called id] s (s.record (.called (.timer id) function args)) := by
  refine ⟨Journal.viewed_push _ _ _, ?_⟩
  intro gone events hagrees _
  exact hagrees.call hfind hactive

/-- A timer that is polled is not due; or its callback is announced, works, and the timer is queued
if it fires once. -/
theorem runTimer (r : Resource σ) (context : ContextHandle) (id : UInt32) (s : Scene σ) :
    ∃ shown, Follows none none shown s (r.runTimer interpreter (some context) id s) := by
  rcases r.runTimer_cases interpreter context id s
    with heq | ⟨timer, t, u, hdue, hmoves, hlogs, heq⟩
  · rw [heq]
    exact ⟨[], refl s⟩
  · have hpolled : Follows none none [] s (s.pollTimer id).2 := pollTimer s id
    have hannounced : Follows none (some id) [.called id] (s.pollTimer id).2
        ((s.pollTimer id).2.record (.called (.timer id) timer.callback [])) := by
      -- the poll has restarted the timer, but left it where it was
      have hcallback := s.bindings.timers.callback_poll id id s.machine.now
      rw [hdue.found] at hcallback
      obtain ⟨restarted, hfind, -⟩ := Option.map_eq_some_iff.mp hcallback
      have hactive := s.bindings.timers.isPending_poll id id s.machine.now
      exact announce hfind (hactive.trans hdue.not_pending) timer.callback []
    obtain ⟨shown, hworked⟩ : ∃ shown, Follows (some id) (some id) shown
        ((s.pollTimer id).2.record (.called (.timer id) timer.callback [])) t := of_moves hmoves
    have hran : Follows none (some id) (.called id :: shown) s u := by
      simpa using hpolled.trans (hannounced.trans (hworked.trans (of_logs hlogs)))
    rw [heq]
    refine ⟨.called id :: shown, ?_, ?_⟩
    · cases timer.once with
      | false => exact hran.told
      | true => exact hran.told
    · intro gone events hagrees hbound
      have hcreated : .created id timer.once ∈ events := hagrees.found id timer hdue.found
      have hfinished := (hran.agrees gone events hagrees hbound).finish
        (List.mem_append_left _ hcreated)
      have htimers : (if timer.once then u.removeTimer id else u).bindings.timers
          = if timer.once then u.bindings.timers.remove id else u.bindings.timers := by
        cases timer.once with
        | false => rfl
        | true => rfl
      rw [htimers]
      exact hfinished

theorem of_sceneMoves (h : SceneMoves interpreter s t) :
    ∃ shown, Follows none none shown s t := by
  induction h with
  | refl => exact ⟨[], refl s⟩
  | @tail t u _ hmove ih =>
    obtain ⟨shown, hbefore⟩ := ih
    have hlast : ∃ shown', Follows none none shown' t u := by
      cases hmove with
      | silent hbindings hgrows => exact ⟨[], of_silent hbindings hgrows⟩
      | @announce cause function args h =>
        have htold : (t.machine.journal.push (.called cause function args)).timerEvents
            = t.machine.journal.timerEvents := by
          rw [Journal.timerEvents, Journal.viewed_push, Entry.timerEvent?_announced function args h]
          exact List.append_nil _
        exact ⟨[], of_table_eq htold rfl⟩
      | script h => exact of_move h
      | host h => exact ⟨[], of_hostMove h⟩
      | pinArrayTypes module => exact ⟨[], pinArrayTypes t module⟩
      | flushTimers => exact ⟨[], flushTimers t⟩
      | releaseAll => exact ⟨[], releaseAll t⟩
      | runTimer r context id => exact runTimer r context id t
    obtain ⟨shown', hlast⟩ := hlast
    exact ⟨shown ++ shown', hbefore.trans hlast⟩

end Follows

end Scene

end ScriptHost
