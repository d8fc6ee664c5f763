import ScriptHost.Proofs.Timer.Runs

/-!
# Timers that are created

`CreatesLive` is what scheduling a callback promises: the new timer is in the table, it is active,
and it stays until it is removed and fires at the first poll after its interval.
`create_live_iff` says for which tables the promise is kept.
-/

namespace ScriptHost.TimerTable

open TimerOperation (creations Queues)

variable {table : TimerTable} {id : UInt32} {interval : Nat} {callback : FunctionHandle}
  {once : Bool} {now : Instant}

/-! ## A timer that waits -/

/-- The timer `id` has not fired since its creation at `now`, and is not queued.  A timer without
an interval may have fired; it is due at every time. -/
structure Waiting (id : UInt32) (interval : Nat) (callback : FunctionHandle) (once : Bool)
    (now : Instant) (table : TimerTable) : Prop where
  found : ∃ lastRun, table.find? id = some ⟨callback, interval, lastRun, once⟩ ∧
    (lastRun = now ∨ interval = 0)
  not_pending : table.isPending id = false

theorem Waiting.contains (h : Waiting id interval callback once now table) :
    table.contains id = true := by
  obtain ⟨lastRun, hfind, -⟩ := h.found
  rw [TimerTable.contains, hfind]
  rfl

theorem Waiting.fires (h : Waiting id interval callback once now table) {due : Instant}
    (hdue : now.nanoseconds + interval ≤ due.nanoseconds) :
    (table.poll id due).1 = .fire callback once := by
  obtain ⟨lastRun, hfind, hlast⟩ := h.found
  have helapsed : interval ≤ due.elapsedSince lastRun := by
    rcases hlast with rfl | rfl
    · rw [Instant.elapsedSince]
      omega
    · exact Nat.zero_le _
  simp [poll, h.not_pending, hfind, helapsed]

theorem Waiting.poll (h : Waiting id interval callback once now table) {other : UInt32}
    {early : Instant} (hearly : other = id → early.nanoseconds < now.nanoseconds + interval) :
    Waiting id interval callback once now (table.poll other early).2 := by
  obtain ⟨lastRun, hfind, hlast⟩ := h.found
  rcases table.poll_cases other early with hp | hp | ⟨timer, hdue, hp⟩
  · rw [hp]
    exact h
  · rw [hp]
    exact h
  · rw [hp]
    refine ⟨?_, h.not_pending⟩
    simp only [find?, Keyed.find?_insert]
    split
    · next heq =>
      -- a timer that fires before its time has no interval
      have htimer : timer = ⟨callback, interval, lastRun, once⟩ := by
        have hfound := hdue.found
        rw [heq, hfind] at hfound
        exact (Option.some.inj hfound).symm
      have helapsed : interval ≤ early.elapsedSince lastRun := by
        have h := hdue.elapsed
        rwa [htimer] at h
      refine ⟨early, by rw [htimer], Or.inr ?_⟩
      rcases hlast with rfl | hzero
      · have hbefore := hearly heq
        rw [Instant.elapsedSince] at helapsed
        omega
      · exact hzero
    · exact ⟨lastRun, hfind, hlast⟩

/-- Nothing but its own removal, a clear, or its firing touches a timer that waits. -/
theorem Waiting.perform (h : Waiting id interval callback once now table)
    {operation : TimerOperation} (hnext : operation.isCreate = true → table.nextId ≠ id)
    (hremove : operation ≠ .remove id) (hclear : operation ≠ .clear)
    (hearly : ∀ early, operation = .poll id early →
      early.nanoseconds < now.nanoseconds + interval) :
    Waiting id interval callback once now (table.perform operation) := by
  refine ⟨?_, isPending_perform_of_ne h.not_pending hremove⟩
  cases operation with
  | create interval' callback' once' now' =>
    have hne : id ≠ table.nextId := fun e => hnext rfl e.symm
    rw [TimerTable.perform, find?_create hne]
    exact h.found
  | remove other =>
    rw [TimerTable.perform, find?_remove]
    exact h.found
  | flush =>
    rw [TimerTable.perform, find?_flush, h.not_pending]
    exact h.found
  | poll other early => exact (h.poll fun e => hearly early (e ▸ rfl)).found
  | clear => exact absurd rfl hclear

/-! ## What a creation promises -/

/-- What scheduling a callback promises.  The new timer is in the table and active.  Until its id
is removed or the table is cleared, it stays in the table, and the first poll after its interval
runs the callback, whatever else is done meanwhile. -/
structure CreatesLive (table : TimerTable) (interval : Nat) (callback : FunctionHandle)
    (once : Bool) (now : Instant) : Prop where
  contains : (table.create interval callback once now).2.2.contains table.nextId = true
  not_pending : (table.create interval callback once now).2.2.isPending table.nextId = false
  activeCount_eq :
    (table.create interval callback once now).2.2.activeCount = table.activeCount + 1
  fires : ∀ later, creations later < UInt32.size →
    .remove table.nextId ∉ later → .clear ∉ later →
    (∀ early, .poll table.nextId early ∈ later →
      early.nanoseconds < now.nanoseconds + interval) →
    ((table.create interval callback once now).2.2.performAll later).contains table.nextId = true ∧
      ∀ due : Instant, now.nanoseconds + interval ≤ due.nanoseconds →
        (((table.create interval callback once now).2.2.performAll later).poll table.nextId due).1
          = .fire callback once

/-- A timer that is queued from the start: it counts for nothing and no poll ever runs it. -/
structure CreatesDead (table : TimerTable) (interval : Nat) (callback : FunctionHandle)
    (once : Bool) (now : Instant) : Prop where
  isPending : (table.create interval callback once now).2.2.isPending table.nextId = true
  activeCount_eq :
    (table.create interval callback once now).2.2.activeCount = table.activeCount
  missing : ∀ later, creations later < UInt32.size → ∀ due,
    (((table.create interval callback once now).2.2.performAll later).poll table.nextId due).1
      = .missing

theorem waiting_create (h : table.isPending table.nextId = false) :
    Waiting table.nextId interval callback once now
      (table.create interval callback once now).2.2 := by
  refine ⟨⟨now, ?_, Or.inl rfl⟩, h⟩
  simp [create, find?, Keyed.find?_insert]

theorem activeCount_create (hwf : table.WellFormed) (hfresh : table.find? table.nextId = none) :
    (table.create interval callback once now).2.2.activeCount
      = table.activeCount + if table.isPending table.nextId then 0 else 1 := by
  have hperm := Keyed.insert_perm_cons table.nextId (Timer.mk callback interval now once)
    hwf.ascending
  rw [find?] at hfresh
  rw [hfresh] at hperm
  have hids : (table.create interval callback once now).2.2.ids.Perm
      (table.nextId :: table.ids) := hperm.map Prod.fst
  have hcount := hids.countP_eq fun id => !table.isPending id
  rw [List.countP_cons] at hcount
  refine hcount.trans ?_
  rw [activeCount]
  cases table.isPending table.nextId <;> rfl

section Created

variable (hwf : table.WellFormed) (hfresh : table.find? table.nextId = none)

include hwf hfresh

theorem createsLive_of_active (h : table.isPending table.nextId = false) :
    CreatesLive table interval callback once now := by
  have hcreated : Waiting table.nextId interval callback once now
    (table.create interval callback once now).2.2 := waiting_create h
  refine ⟨hcreated.contains, h, ?_, ?_⟩
  · rw [activeCount_create hwf hfresh, h]
    rfl
  · intro later hroom hremove hclear hearly
    have hwaiting : Waiting table.nextId interval callback once now
        ((table.create interval callback once now).2.2.performAll later) := by
      refine runs_keep table.nextId ?_ ?_ hcreated
      · rw [roomBefore_created]
        exact Nat.le_sub_one_of_lt hroom
      · intro before operation hmem hbefore hnext
        refine hbefore.perform hnext ?_ ?_ ?_
        · exact fun e => hremove (e ▸ hmem)
        · exact fun e => hclear (e ▸ hmem)
        · exact fun early e => hearly early (e ▸ hmem)
    exact ⟨hwaiting.contains, fun due hdue => hwaiting.fires hdue⟩

theorem createsDead_of_pending (h : table.isPending table.nextId = true) :
    CreatesDead table interval callback once now := by
  have hcreated : Missing table.nextId (table.create interval callback once now).2.2 := Or.inl h
  refine ⟨h, ?_, ?_⟩
  · rw [activeCount_create hwf hfresh, h]
    rfl
  · intro later hroom due
    have hmissing : Missing table.nextId
        ((table.create interval callback once now).2.2.performAll later) := by
      refine runs_keep table.nextId ?_ ?_ hcreated
      · rw [roomBefore_created]
        exact Nat.le_sub_one_of_lt hroom
      · intro before operation _ hbefore hnext
        exact hbefore.perform hnext
    rw [hmissing.poll_eq]

end Created

/-- A timer is live exactly if its id was not removed before it was given out and since the last
flush or clear.  Otherwise the removal that came too early takes the timer with it. -/
theorem create_live_iff {history : List TimerOperation}
    (h : creations history < UInt32.size - 1) (interval : Nat) (callback : FunctionHandle)
    (once : Bool) (now : Instant) :
    (CreatesLive (({} : TimerTable).performAll history) interval callback once now
      ↔ ¬ Queues (({} : TimerTable).performAll history).nextId history) ∧
    (Queues (({} : TimerTable).performAll history).nextId history →
      CreatesDead (({} : TimerTable).performAll history) interval callback once now) := by
  have hwf := wellFormed_performAll history
  have hnumbered := numbered_performAll h
  have hqueue := isPending_performAll history (({} : TimerTable).performAll history).nextId
  have hfresh : (({} : TimerTable).performAll history).find?
      (({} : TimerTable).performAll history).nextId = none := by
    apply Option.eq_none_iff_forall_ne_some.mpr
    intro timer hfind
    exact hnumbered.find?_ne hfind rfl
  refine ⟨⟨?_, ?_⟩, ?_⟩
  · intro hlive hqueued
    have hpending : (({} : TimerTable).performAll history).isPending
      (({} : TimerTable).performAll history).nextId = false := hlive.not_pending
    rw [hqueue.mpr hqueued] at hpending
    cases hpending
  · intro hnot
    apply createsLive_of_active hwf hfresh
    exact Bool.eq_false_iff.mpr fun hpending => hnot (hqueue.mp hpending)
  · intro hqueued
    exact createsDead_of_pending hwf hfresh (hqueue.mpr hqueued)

/-- Removals of other ids, and one that a flush has forgotten, leave the second timer live. -/
theorem create_live_second :
    let history : List TimerOperation :=
      [.create 0 ⟨"greet", "void greet()"⟩ true ⟨0⟩, .remove 2, .flush, .remove 1]
    creations history < UInt32.size - 1 ∧
      CreatesLive (({} : TimerTable).performAll history) 5 ⟨"greet", "void greet()"⟩ true ⟨3⟩ := by
  intro history
  have hroom : creations history < UInt32.size - 1 := by decide
  have hqueue : ¬ Queues (({} : TimerTable).performAll history).nextId history := by
    rw [← isPending_performAll]
    decide
  exact ⟨hroom, (create_live_iff hroom 5 ⟨"greet", "void greet()"⟩ true ⟨3⟩).1.mpr hqueue⟩

/-- The first timer does not outlive a removal of its id that was made before there was any. -/
theorem create_dead_first :
    let history : List TimerOperation := [.remove 1]
    creations history < UInt32.size - 1 ∧
      ¬ CreatesLive (({} : TimerTable).performAll history) 0 ⟨"greet", "void greet()"⟩ true ⟨0⟩ ∧
      CreatesDead (({} : TimerTable).performAll history) 0 ⟨"greet", "void greet()"⟩ true ⟨0⟩ := by
  intro history
  have hdead : CreatesDead (({} : TimerTable).performAll history) 0 ⟨"greet", "void greet()"⟩ true
      ⟨0⟩ := createsDead_of_pending (wellFormed_performAll history) (by decide) (by decide)
  refine ⟨by decide, ?_, hdead⟩
  intro hlive
  exact Bool.false_ne_true (hlive.not_pending.symm.trans hdead.isPending)

end ScriptHost.TimerTable
