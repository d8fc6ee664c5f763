import ScriptHost.Proofs.Resource.Settlement
import ScriptHost.Proofs.Resource.TimerEvents

/-!
# Cleared and spent timers never run again

The history of a resource tells what has happened to its timers.  `Reachable.agrees` is the
invariant of a run: the timer table agrees with that history.  From it follows what becomes of a
timer once it is retired, that is, cleared or, if it fires once, called:

* its callback is never called for it again, and one that fires once is called once at most;
* the next tick starts by taking it out of the table, where it never comes back, and gives the
  reference to its callback back;
* no reference to a callback is given back twice (`Reachable.settled`).

`Reachable.timers_retire` puts this together.  It assumes that the ids of timers have not run out,
since they start over after that.
-/

namespace ScriptHost

variable {σ : Type} {interpreter : Interpreter σ}

theorem Journal.creations_le_following (history earlier later : Journal) :
    history.creations ≤ (history.following earlier later).creations := by
  rw [creations, creations, following, viewed_append, List.length_append]
  exact Nat.le_add_right _ _

/-- The table goes on agreeing with the history of its resource.  What has happened before the work
begins may be older than the scene, if it is nothing about timers. -/
theorem Scene.Follows.following {s t : Scene σ} {shown : List TimerEvent}
    (h : Follows none none shown s t) (history : Journal) {earlier : Journal}
    (hearlier : s.machine.journal.timerEvents = earlier.timerEvents)
    (hgrows : earlier.Grows (fun _ => True) t.machine.journal)
    (hbound : (history.following earlier t.machine.journal).creations < UInt32.size - 1)
    {gone : UInt32 → Prop} (hagrees : s.bindings.timers.Agrees none gone history.timerEvents) :
    t.bindings.timers.Agrees none gone
      (history.following earlier t.machine.journal).timerEvents := by
  have hcreations := (history.following earlier t.machine.journal).creations_timerEvents_le
  have hevents : (history.following earlier t.machine.journal).timerEvents
      = history.timerEvents ++ shown := by
    refine history.viewed_following hgrows ?_
    exact h.told.trans (congrArg (· ++ shown) hearlier)
  rw [hevents] at hcreations ⊢
  exact h.agrees gone history.timerEvents hagrees (Nat.lt_of_le_of_lt hcreations hbound)

namespace TimerEvent

/-- What holds of the timers of a whole run. -/
structure Retiring (events : List TimerEvent) : Prop where
  /-- No callback is called for a timer that was cleared, or that fires once and was called. -/
  orderly : Orderly events
  /-- A timer that fires once is called once at most. -/
  count_called_le : ∀ id, .created id true ∈ events → events.count (.called id) ≤ 1

end TimerEvent

theorem TimerTable.Agrees.retiring {table : TimerTable} {running : Option UInt32}
    {gone : UInt32 → Prop} {events : List TimerEvent} (h : table.Agrees running gone events) :
    TimerEvent.Retiring events := by
  refine ⟨h.orderly, ?_⟩
  intro id hcreated
  exact h.orderly.count_called_le fun once honce => h.once_unique id once true honce hcreated

namespace Resource

/-! ## The invariant of a run -/

/-- An operation keeps the timer table in agreement with the history. -/
theorem perform_agrees (r : Resource σ) (m : Machine σ) {milestones : List Milestone}
    (hlived : r.Lived milestones) (operation : Operation) {history : Journal}
    (hbound : (history.following m.journal
      (r.perform interpreter operation m).2.2.journal).creations < UInt32.size - 1)
    {gone : UInt32 → Prop} (hagrees : r.bindings.timers.Agrees none gone history.timerEvents) :
    (r.perform interpreter operation m).2.1.bindings.timers.Agrees none gone
      (history.following m.journal
        (r.perform interpreter operation m).2.2.journal).timerEvents := by
  have hmoves := r.perform_moves interpreter hlived.context_isSome m operation
  obtain ⟨shown, hfollows⟩ := Scene.Follows.of_sceneMoves hmoves
  have hgrows := perform_grows interpreter r m hlived operation
  exact hfollows.following history rfl hgrows hbound hagrees

variable {history : Journal} {r : Resource σ} {m : Machine σ}

theorem Reachable.agrees (h : Reachable interpreter history r m)
    (hbound : history.creations < UInt32.size - 1) :
    r.bindings.timers.Agrees none (fun _ => False) history.timerEvents := by
  induction h with
  | created => exact TimerTable.agrees_empty
  | @performed history r m operation h ih =>
    have hbefore := history.creations_le_following m.journal
      (r.perform interpreter operation m).2.2.journal
    exact perform_agrees r m h.sound.lived operation hbound
      (ih (Nat.lt_of_le_of_lt hbefore hbound))
  | elsewhere _ _ ih => exact ih hbound

theorem Reachable.drop_retiring (h : Reachable interpreter history r m)
    (hbound : (history.following m.journal (r.drop interpreter m).journal).creations
      < UInt32.size - 1) :
    TimerEvent.Retiring (history.following m.journal (r.drop interpreter m).journal).timerEvents := by
  have hgrows := drop_grows interpreter r m h.sound.lived
  have hbefore := history.creations_le_following m.journal (r.drop interpreter m).journal
  have hagrees := h.agrees (Nat.lt_of_le_of_lt hbefore hbound)
  obtain ⟨t, heq, hmoves, -⟩ := r.drop_moves interpreter m
  obtain ⟨shown, hfollows⟩ := Scene.Follows.of_sceneMoves hmoves
  rw [heq] at hgrows hbound ⊢
  exact (hfollows.following history rfl hgrows hbound hagrees).retiring

/-! ## What comes later -/

/-- What becomes of a resource with its history from some point on: operations are performed, and
between them anything can become of the machine. -/
inductive Later (interpreter : Interpreter σ) (history : Journal) (r : Resource σ)
    (m : Machine σ) : Journal → Resource σ → Machine σ → Prop
  | now : Later interpreter history r m history r m
  | performed {history' : Journal} {r' : Resource σ} {m' : Machine σ} (operation : Operation)
      (h : Later interpreter history r m history' r' m') :
      Later interpreter history r m
        (history'.following m'.journal (r'.perform interpreter operation m').2.2.journal)
        (r'.perform interpreter operation m').2.1 (r'.perform interpreter operation m').2.2
  | elsewhere {history' : Journal} {r' : Resource σ} {m' : Machine σ} (m'' : Machine σ)
      (h : Later interpreter history r m history' r' m') :
      Later interpreter history r m history' r' m''

theorem Later.reachable {history' : Journal} {r' : Resource σ} {m' : Machine σ}
    (h : Later interpreter history r m history' r' m')
    (hbefore : Reachable interpreter history r m) : Reachable interpreter history' r' m' := by
  induction h with
  | now => exact hbefore
  | performed operation _ ih => exact .performed operation ih
  | elsewhere m'' _ ih => exact .elsewhere m'' ih

theorem Later.creations_le {history' : Journal} {r' : Resource σ} {m' : Machine σ}
    (h : Later interpreter history r m history' r' m') :
    history.creations ≤ history'.creations := by
  induction h with
  | now => exact Nat.le_refl _
  | performed _ _ ih => exact Nat.le_trans ih (Journal.creations_le_following _ _ _)
  | elsewhere _ _ ih => exact ih

theorem Later.agrees {history' : Journal} {r' : Resource σ} {m' : Machine σ}
    (h : Later interpreter history r m history' r' m')
    (hbefore : Reachable interpreter history r m)
    (hbound : history'.creations < UInt32.size - 1) {gone : UInt32 → Prop}
    (hagrees : r.bindings.timers.Agrees none gone history.timerEvents) :
    r'.bindings.timers.Agrees none gone history'.timerEvents := by
  induction h with
  | now => exact hagrees
  | @performed history' r' m' operation h ih =>
    have hle := history'.creations_le_following m'.journal
      (r'.perform interpreter operation m').2.2.journal
    exact perform_agrees r' m' (h.reachable hbefore).sound.lived operation hbound
      (ih (Nat.lt_of_le_of_lt hle hbound))
  | elsewhere _ _ ih => exact ih hbound

/-! ## Ticks -/

/-- A tick of a resource takes the timer with an id out of the table for good. -/
structure TakesOut (interpreter : Interpreter σ) (history : Journal) (r : Resource σ)
    (m : Machine σ) (id : UInt32) (s t : Scene σ) : Prop where
  /-- The timers are run from `s` on, and the tick ends in `t`. -/
  result : (r.perform interpreter .tick m).2 = (r.adopt t, t.machine)
  runs : t = s.bindings.timers.ids.foldl (fun s id => r.runTimer interpreter r.context id s) s
  /-- Before, each timer in the queue has given back the reference to its callback, ... -/
  releases : s.machine.journal
    = m.journal.append (r.bindings.timers.queued.map fun (_, timer) => .released timer.callback)
  /-- ... once, ... -/
  queued_nodup : (r.bindings.timers.queued.map (·.1)).Nodup
  /-- ... and the timer, if it was still there, was one of them. -/
  mem_queued : ∀ timer, r.bindings.timers.find? id = some timer →
    (id, timer) ∈ r.bindings.timers.queued
  out : s.bindings.timers.find? id = none
  stays_out : ∀ history' r' m',
    Later interpreter (history.following m.journal t.machine.journal) (r.adopt t) t.machine
      history' r' m' →
    history'.creations < UInt32.size - 1 → r'.bindings.timers.find? id = none

/-- A tick begins with a flush, and goes on with the timers that are left. -/
theorem perform_tick (interpreter : Interpreter σ) (hphase : r.phase = .running) :
    let s := (r.scene m).flushTimers
    let t := s.bindings.timers.ids.foldl (fun s id => r.runTimer interpreter r.context id s) s
    (r.perform interpreter .tick m).2 = (r.adopt t, t.machine) := by
  have hrun : r.isRunning = true := decide_eq_true hphase
  simp only [perform, onTick, hrun, Bool.not_true, Bool.false_eq_true, if_false]

/-- The next tick of a running resource takes out every timer that is retired by then. -/
theorem Reachable.tick_takesOut (h : Reachable interpreter history r m)
    (hbound : history.creations < UInt32.size - 1) (hphase : r.phase = .running) {id : UInt32}
    (hretired : TimerEvent.Retired id history.timerEvents) :
    ∃ s t, r.TakesOut interpreter history m id s t := by
  have hsound := h.sound
  have hagrees := h.agrees hbound
  have hrun : r.isRunning = true := decide_eq_true hphase
  obtain ⟨context, hcontext⟩ :=
    Option.isSome_iff_exists.mp (hsound.lived.context_isSome hrun)
  let s := (r.scene m).flushTimers
  let t := s.bindings.timers.ids.foldl (fun s id => r.runTimer interpreter r.context id s) s
  have htick : (r.perform interpreter .tick m).2 = (r.adopt t, t.machine) :=
    perform_tick interpreter hphase
  have hflushed : s.bindings.timers.Agrees none (· = id) history.timerEvents :=
    hagrees.flush hretired
  have hrest : SceneMoves interpreter s t := by
    show SceneMoves interpreter s
      (s.bindings.timers.ids.foldl (fun s id => r.runTimer interpreter r.context id s) s)
    rw [hcontext]
    exact r.runTimers_moves interpreter context _ s
  obtain ⟨shown, hfollows⟩ := Scene.Follows.of_sceneMoves hrest
  have hafter : Reachable interpreter (history.following m.journal t.machine.journal) (r.adopt t)
      t.machine := by
    have hperformed := Reachable.performed .tick h
    rwa [htick] at hperformed
  have hgrows : m.journal.Grows (fun _ => True) t.machine.journal := by
    have hticked := perform_grows interpreter r m hsound.lived .tick
    rwa [htick] at hticked
  refine ⟨s, t, htick, rfl, ?_, hsound.covers.wellFormed.queued_nodup, ?_,
    (hflushed.gone id rfl).2, ?_⟩
  · rw [Scene.journal_flushTimers, TimerTable.flush_eq_queued, List.map_map]
    rfl
  · intro timer hfind
    refine TimerTable.mem_queued.mpr ⟨?_, hfind⟩
    rcases hagrees.missing_of_retired hretired with hpending | hnone
    · exact hpending
    · rw [hnone] at hfind
      cases hfind
  · intro history' r' m' hlater hlaterBound
    have hflush : s.machine.journal.timerEvents = m.journal.timerEvents :=
      (r.scene m).viewed_flushTimers fun _ => rfl
    have hended := hfollows.following history hflush hgrows
      (Nat.lt_of_le_of_lt hlater.creations_le hlaterBound) hflushed
    have hkept := hlater.agrees hafter hlaterBound hended
    exact (hkept.gone id rfl).2

/-! ## Whole runs -/

/-- A timer that has been cleared, or that fires once and has been called, never runs again: not in
what has happened so far, and not until the end of the resource.  The next tick takes it out for
good.  Each reference that came with a callback is held by an entry or has been given back once, and
in the end all have been given back. -/
theorem Reachable.timers_retire (h : Reachable interpreter history r m)
    (hbound : history.creations < UInt32.size - 1) :
    TimerEvent.Retiring history.timerEvents ∧
    (r.phase = .running → ∀ id, TimerEvent.Retired id history.timerEvents →
      ∃ s t, r.TakesOut interpreter history m id s t) ∧
    (∀ f, (history.viewed Entry.takeover?).count f
      = r.bindings.callbacks.count f + (history.viewed Entry.released?).count f) ∧
    ∀ ended, ended = history.following m.journal (r.drop interpreter m).journal →
      (ended.creations < UInt32.size - 1 → TimerEvent.Retiring ended.timerEvents) ∧
      ∀ f, (ended.viewed Entry.takeover?).count f = (ended.viewed Entry.released?).count f := by
  refine ⟨(h.agrees hbound).retiring, ?_, h.settled, ?_⟩
  · intro hphase id hretired
    exact h.tick_takesOut hbound hphase hretired
  · rintro ended rfl
    exact ⟨h.drop_retiring, h.drop_settled⟩

end Resource

/-! ## A sample run -/

namespace Sample

/-- Whenever the function of the sample is called, it has itself called by the next tick. -/
def rescheduler : Interpreter Unit :=
  { Sample.interpreter with
    execute := fun _ _ =>
      .called () (.setTimer none true) .bindings [.function greeter] fun _ _ =>
        .ended () (.ok .finished) }

/-- The resource after its start and one tick. -/
def ticked : Resource Unit × Machine Unit :=
  ((startWith rescheduler).2.1.perform rescheduler .tick (startWith rescheduler).2.2).2

def tickedHistory : Journal :=
  (Journal.empty.following machine.journal (startWith rescheduler).2.2.journal).following
    (startWith rescheduler).2.2.journal ticked.2.journal

theorem reachable_ticked :
    Resource.Reachable rescheduler tickedHistory ticked.1 ticked.2 :=
  .performed .tick (reachable_startWith rescheduler)

/-- The timer of the entry point has been called by the tick, and has created another one. -/
theorem timerEvents_ticked :
    tickedHistory.timerEvents = [.created 1 true, .called 1, .created 2 true] := by
  decide +kernel

/-- The first timer is spent and still in the table; the next tick takes it out. -/
theorem timer_retires_ticked :
    tickedHistory.creations < UInt32.size - 1 ∧ ticked.1.phase = .running ∧
      (ticked.1.bindings.timers.find? 1).isSome ∧
      TimerEvent.Retired 1 tickedHistory.timerEvents ∧
      ∃ s t, ticked.1.TakesOut rescheduler tickedHistory ticked.2 1 s t := by
  have hbound : tickedHistory.creations < UInt32.size - 1 := by decide +kernel
  have hphase : ticked.1.phase = .running := by decide +kernel
  have hretired : TimerEvent.Retired 1 tickedHistory.timerEvents := by
    rw [timerEvents_ticked]
    exact Or.inr ⟨by decide, by decide⟩
  refine ⟨hbound, hphase, by decide +kernel, hretired, ?_⟩
  exact (reachable_ticked.timers_retire hbound).2.1 hphase 1 hretired

end Sample

end ScriptHost
