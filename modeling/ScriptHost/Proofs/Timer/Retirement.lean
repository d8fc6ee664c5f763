import ScriptHost.Proofs.Timer.Runs

/-!
# Retired timers

What becomes of timers is told by three kinds of events: a timer is created, its id is cleared, and
its callback is called.  A timer is `Retired` once it has been cleared, or once it has been called if
it fires only once.  `Agrees` is the invariant that ties a timer table to the events so far: no
event calls a timer that was retired before, and a poll does not find a timer that is retired by
now.  Each use of the table has a lemma that says how it keeps the invariant.
-/

namespace ScriptHost

/-- What happens to a timer. -/
inductive TimerEvent where
  | created (id : UInt32) (once : Bool)
  | cleared (id : UInt32)
  /-- The callback is called, whatever comes of the call. -/
  | called (id : UInt32)
deriving DecidableEq, Repr

namespace TimerEvent

def isCreated : TimerEvent → Bool
  | created .. => true
  | _ => false

/-- The number of timers created. -/
def creations (events : List TimerEvent) : Nat :=
  events.countP isCreated

/-- The timer has been created. -/
def Known (id : UInt32) (events : List TimerEvent) : Prop :=
  ∃ once, .created id once ∈ events

/-- The timer has been cleared after it was created. -/
def Cleared (id : UInt32) (events : List TimerEvent) : Prop :=
  ∃ earlier later, events = earlier ++ .cleared id :: later ∧ Known id earlier

/-- The timer fires only once and has been called. -/
def Spent (id : UInt32) (events : List TimerEvent) : Prop :=
  .created id true ∈ events ∧ .called id ∈ events

def Retired (id : UInt32) (events : List TimerEvent) : Prop :=
  Cleared id events ∨ Spent id events

/-- Only timers that exist and are not retired are called. -/
def Orderly (events : List TimerEvent) : Prop :=
  ∀ earlier later id, events = earlier ++ .called id :: later →
    Known id earlier ∧ ¬ Retired id earlier

variable {id : UInt32} {events : List TimerEvent} {event : TimerEvent}

theorem known_concat :
    Known id (events ++ [event]) ↔ Known id events ∨ ∃ once, event = .created id once := by
  simp only [Known, List.mem_append, List.mem_singleton, exists_or, eq_comm]

theorem cleared_concat :
    Cleared id (events ++ [event])
      ↔ Cleared id events ∨ (event = .cleared id ∧ Known id events) := by
  constructor
  · rintro ⟨earlier, later, heq, hknown⟩
    rcases concat_eq_append_cons.mp heq with ⟨rest, rfl, rfl⟩ | ⟨rfl, rfl, rfl⟩
    · exact Or.inl ⟨earlier, rest, rfl, hknown⟩
    · exact Or.inr ⟨rfl, hknown⟩
  · rintro (⟨earlier, later, rfl, hknown⟩ | ⟨rfl, hknown⟩)
    · exact ⟨earlier, later ++ [event], by simp, hknown⟩
    · exact ⟨events, [], rfl, hknown⟩

theorem orderly_concat :
    Orderly (events ++ [event])
      ↔ Orderly events ∧ ∀ id, event = .called id → Known id events ∧ ¬ Retired id events := by
  constructor
  · intro h
    constructor
    · rintro earlier later id rfl
      exact h earlier (later ++ [event]) id (by simp)
    · rintro id rfl
      exact h events [] id rfl
  · rintro ⟨hbefore, hlast⟩ earlier later id heq
    rcases concat_eq_append_cons.mp heq with ⟨rest, -, rfl⟩ | ⟨-, rfl, rfl⟩
    · exact hbefore earlier rest id rfl
    · exact hlast id rfl

theorem Orderly.known (h : Orderly events) (hcalled : .called id ∈ events) : Known id events := by
  obtain ⟨earlier, later, rfl⟩ := List.append_of_mem hcalled
  obtain ⟨once, hcreated⟩ := (h earlier later id rfl).1
  exact ⟨once, List.mem_append_left _ hcreated⟩

theorem Cleared.known (h : Cleared id events) : Known id events := by
  obtain ⟨earlier, later, rfl, once, hcreated⟩ := h
  exact ⟨once, List.mem_append_left _ hcreated⟩

theorem Retired.known (h : Retired id events) : Known id events := by
  rcases h with hcleared | ⟨hcreated, -⟩
  · exact hcleared.known
  · exact ⟨true, hcreated⟩

/-- A timer that fires once is called once at most. -/
theorem Orderly.count_called_le (h : Orderly events)
    (honce : ∀ once, .created id once ∈ events → once = true) :
    events.count (.called id) ≤ 1 := by
  -- a call before another one would have spent the timer
  have hfirst : ∀ earlier later, events = earlier ++ .called id :: later →
      .called id ∉ earlier := by
    rintro earlier later rfl hcalled
    obtain ⟨⟨once, hcreated⟩, hactive⟩ := h earlier later id rfl
    have htrue : once = true := honce once (List.mem_append_left _ hcreated)
    rw [htrue] at hcreated
    exact hactive (Or.inr ⟨hcreated, hcalled⟩)
  by_contra htwo
  have hmem : .called id ∈ events := List.count_pos_iff.mp (by omega)
  obtain ⟨earlier, later, heq⟩ := List.append_of_mem hmem
  have hearlier : earlier.count (.called id) = 0 :=
    List.count_eq_zero_of_not_mem (hfirst earlier later heq)
  have hlater : .called id ∈ later := by
    rw [heq, List.count_append, List.count_cons_self] at htwo
    exact List.count_pos_iff.mp (by omega)
  obtain ⟨between, rest, rfl⟩ := List.append_of_mem hlater
  refine hfirst (earlier ++ .called id :: between) rest ?_ ?_
  · rw [heq, List.append_assoc, List.cons_append]
  · exact List.mem_append_right _ List.mem_cons_self

end TimerEvent

namespace TimerTable

open TimerEvent

/-- What one thing that a script does comes to for the timers, with the events that are told. -/
inductive ScriptStep (table : TimerTable) : List TimerEvent → TimerTable → Prop
  | nothing : ScriptStep table [] table
  | created (interval : Nat) (callback : FunctionHandle) (once : Bool) (now : Instant) :
      ScriptStep table [.created table.nextId once] (table.create interval callback once now).2.2
  | cleared (id : UInt32) : ScriptStep table [.cleared id] (table.remove id)

/-- The table is what the events so far have left, and the events are in order.  While the callback
of a timer is `running`, that timer can be spent without being queued; the ids in `gone` have left
the table. -/
structure Agrees (running : Option UInt32) (gone : UInt32 → Prop) (events : List TimerEvent)
    (table : TimerTable) : Prop where
  numbered : table.Numbered (TimerEvent.creations events)
  le_creations : ∀ id, Known id events → id.toNat ≤ TimerEvent.creations events
  once_unique : ∀ id once once', .created id once ∈ events → .created id once' ∈ events →
    once = once'
  found : ∀ id timer, table.find? id = some timer → .created id timer.once ∈ events
  cleared : ∀ id, Cleared id events → Missing id table
  spent : ∀ id, Spent id events → running ≠ some id → Missing id table
  gone : ∀ id, gone id → Known id events ∧ table.find? id = none
  orderly : Orderly events

variable {running : Option UInt32} {gone : UInt32 → Prop} {events : List TimerEvent}
  {table : TimerTable}

theorem agrees_empty : ({} : TimerTable).Agrees none (fun _ => False) [] where
  numbered := numbered_empty
  le_creations := by simp [Known]
  once_unique := by simp
  found := by
    intro id timer h
    cases h
  cleared := by simp [Cleared]
  spent := by simp [Spent]
  gone := fun _ h => h.elim
  orderly := by simp [Orderly]

namespace Agrees

/-- An id that has been given out is not the next one. -/
theorem nextId_ne (h : table.Agrees running gone events) {id : UInt32} (hknown : Known id events) :
    table.nextId ≠ id := by
  intro heq
  have hle := h.le_creations id hknown
  rw [← heq, h.numbered.nextId_eq] at hle
  omega

theorem missing_of_spent (h : table.Agrees none gone events) {id : UInt32}
    (hspent : Spent id events) : Missing id table :=
  h.spent id hspent (fun e => by cases e)

/-- A poll does not find a timer that is retired. -/
theorem missing_of_retired (h : table.Agrees none gone events) {id : UInt32}
    (hretired : Retired id events) : Missing id table := by
  rcases hretired with hcleared | hspent
  · exact h.cleared id hcleared
  · exact h.missing_of_spent hspent

/-! ### Uses of the table -/

/-- Uses that create nothing and that no event tells of. -/
theorem perform (h : table.Agrees running gone events) {operation : TimerOperation}
    (hop : operation.isCreate = false) : (table.perform operation).Agrees running gone events := by
  have hnext : ∀ id, operation.isCreate = true → table.nextId ≠ id := by
    intro id hcreate
    rw [hop] at hcreate
    cases hcreate
  refine ⟨h.numbered.perform hop, h.le_creations, h.once_unique, ?_, ?_, ?_, ?_, h.orderly⟩
  · intro id timer hfind
    obtain ⟨before, hbefore, -, honce⟩ := find?_perform hop hfind
    rw [← honce]
    exact h.found id before hbefore
  · exact fun id hcleared => (h.cleared id hcleared).perform (hnext id)
  · exact fun id hspent hrunning => (h.spent id hspent hrunning).perform (hnext id)
  · intro id hgone
    obtain ⟨hknown, hnone⟩ := h.gone id hgone
    refine ⟨hknown, Option.eq_none_iff_forall_ne_some.mpr ?_⟩
    intro timer hfind
    obtain ⟨before, hbefore, -⟩ := find?_perform hop hfind
    rw [hnone] at hbefore
    cases hbefore

/-- What a poll does not find, it does not find after a creation either, since that takes an id that
is new. -/
theorem missing_create (h : table.Agrees running gone events) (interval : Nat)
    (callback : FunctionHandle) (once : Bool) (now : Instant) {id : UInt32}
    (hknown : Known id events) (hmissing : Missing id table) :
    Missing id (table.create interval callback once now).2.2 := by
  have hkept : Missing id (table.perform (.create interval callback once now)) :=
    hmissing.perform fun _ => h.nextId_ne hknown
  exact hkept

/-- A timer has been created once, with one kind of firing. -/
theorem once_unique_create (h : table.Agrees running gone events) {id : UInt32}
    {once first second : Bool}
    (hfirst : .created id first ∈ events ++ [.created table.nextId once])
    (hsecond : .created id second ∈ events ++ [.created table.nextId once]) : first = second := by
  rw [List.mem_append, List.mem_singleton] at hfirst hsecond
  rcases hfirst with hfirst | hfirst
  · rcases hsecond with hsecond | hsecond
    · exact h.once_unique id first second hfirst hsecond
    · cases hsecond
      exact absurd rfl (h.nextId_ne ⟨first, hfirst⟩)
  · cases hfirst
    rcases hsecond with hsecond | hsecond
    · exact absurd rfl (h.nextId_ne ⟨second, hsecond⟩)
    · cases hsecond
      rfl

/-- A timer is created, under an id that is new. -/
theorem create (h : table.Agrees running gone events)
    (hbound : TimerEvent.creations events + 1 < UInt32.size - 1) (interval : Nat)
    (callback : FunctionHandle) (once : Bool) (now : Instant) :
    (table.create interval callback once now).2.2.Agrees running gone
      (events ++ [.created table.nextId once]) := by
  have hcount : TimerEvent.creations (events ++ [.created table.nextId once])
      = TimerEvent.creations events + 1 := by
    rw [TimerEvent.creations, List.countP_append]
    rfl
  refine ⟨?_, ?_, ?_, ?_, ?_, ?_, ?_, ?_⟩
  · rw [hcount]
    exact h.numbered.create hbound interval callback once now
  · intro id hknown
    rw [hcount]
    rcases known_concat.mp hknown with hold | ⟨once', hnew⟩
    · exact Nat.le_succ_of_le (h.le_creations id hold)
    · cases hnew
      exact Nat.le_of_eq h.numbered.nextId_eq
  · exact fun id first second => h.once_unique_create
  · intro id timer hfind
    by_cases hid : id = table.nextId
    · have hnew : Timer.mk callback interval now once = timer := by
        simpa [TimerTable.create, find?, Keyed.find?_insert, hid] using hfind
      rw [← hnew, hid]
      exact List.mem_append_right _ List.mem_cons_self
    · rw [find?_create hid] at hfind
      exact List.mem_append_left _ (h.found id timer hfind)
  · intro id hcleared
    rcases cleared_concat.mp hcleared with hold | ⟨hlast, -⟩
    · exact h.missing_create interval callback once now hold.known (h.cleared id hold)
    · cases hlast
  · rintro id ⟨hcreated, hcalled⟩ hrunning
    have hcalled : .called id ∈ events := by simpa using hcalled
    have hknown := h.orderly.known hcalled
    have hcreated : .created id true ∈ events := by
      rcases List.mem_append.mp hcreated with hold | hnew
      · exact hold
      · cases List.mem_singleton.mp hnew
        exact absurd rfl (h.nextId_ne hknown)
    exact h.missing_create interval callback once now hknown
      (h.spent id ⟨hcreated, hcalled⟩ hrunning)
  · intro id hgone
    obtain ⟨hknown, hnone⟩ := h.gone id hgone
    have hne : id ≠ table.nextId := fun e => h.nextId_ne hknown e.symm
    exact ⟨known_concat.mpr (Or.inl hknown), (find?_create hne).trans hnone⟩
  · exact orderly_concat.mpr ⟨h.orderly, fun id e => by cases e⟩

/-- An event that creates nothing, and that the table has taken into account. -/
theorem tell (h : table.Agrees running gone events) {running' : Option UInt32}
    {event : TimerEvent} (hevent : event.isCreated = false)
    (hcleared : ∀ id, event = .cleared id → Missing id table)
    (hspent : ∀ id, Spent id (events ++ [event]) → running' ≠ some id → Missing id table)
    (hcalled : ∀ id, event = .called id → Known id events ∧ ¬ Retired id events) :
    table.Agrees running' gone (events ++ [event]) := by
  have hcount : TimerEvent.creations (events ++ [event]) = TimerEvent.creations events := by
    rw [TimerEvent.creations, List.countP_append, List.countP_singleton, hevent]
    rfl
  have hcreated : ∀ id once, .created id once ∈ events ++ [event] ↔ .created id once ∈ events := by
    intro id once
    rw [List.mem_append, List.mem_singleton]
    refine or_iff_left ?_
    rintro rfl
    cases hevent
  have hknown : ∀ id, Known id (events ++ [event]) ↔ Known id events := by
    intro id
    simp only [Known, hcreated]
  refine ⟨?_, ?_, ?_, ?_, ?_, hspent, ?_, ?_⟩
  · rw [hcount]
    exact h.numbered
  · intro id hid
    rw [hcount]
    exact h.le_creations id ((hknown id).mp hid)
  · intro id first second hfirst hsecond
    exact h.once_unique id first second ((hcreated _ _).mp hfirst) ((hcreated _ _).mp hsecond)
  · intro id timer hfind
    exact (hcreated _ _).mpr (h.found id timer hfind)
  · intro id hid
    rcases cleared_concat.mp hid with hold | ⟨hlast, -⟩
    · exact h.cleared id hold
    · exact hcleared id hlast
  · intro id hgone
    obtain ⟨hid, hnone⟩ := h.gone id hgone
    exact ⟨(hknown id).mpr hid, hnone⟩
  · exact orderly_concat.mpr ⟨h.orderly, hcalled⟩

/-- A script clears a timer. -/
theorem clear (h : table.Agrees running gone events) (id : UInt32) :
    (table.remove id).Agrees running gone (events ++ [.cleared id]) := by
  have hkept : (table.perform (.remove id)).Agrees running gone events := h.perform rfl
  refine hkept.tell rfl ?_ ?_ ?_
  · intro other e
    cases e
    exact Or.inl ((isPending_remove table id id).mpr (Or.inl rfl))
  · rintro other ⟨hcreated, hcalled⟩ hrunning
    exact hkept.spent other ⟨by simpa using hcreated, by simpa using hcalled⟩ hrunning
  · intro other e
    cases e

theorem scriptStep (h : table.Agrees running gone events) {shown : List TimerEvent}
    {table' : TimerTable} (hstep : table.ScriptStep shown table')
    (hbound : TimerEvent.creations (events ++ shown) < UInt32.size - 1) :
    table'.Agrees running gone (events ++ shown) := by
  cases hstep with
  | nothing =>
    rw [List.append_nil]
    exact h
  | created interval callback once now =>
    rw [TimerEvent.creations, List.countP_append] at hbound
    exact h.create hbound interval callback once now
  | cleared id => exact h.clear id

/-- The callback of a timer that a poll finds is called. -/
theorem call (h : table.Agrees none gone events) {id : UInt32} {timer : Timer}
    (hfind : table.find? id = some timer) (hactive : table.isPending id = false) :
    table.Agrees (some id) gone (events ++ [.called id]) := by
  have hpresent : ¬ Missing id table := by
    rintro (hpending | hnone)
    · rw [hactive] at hpending
      cases hpending
    · rw [hfind] at hnone
      cases hnone
  refine h.tell rfl ?_ ?_ ?_
  · intro other e
    cases e
  · rintro other ⟨hcreated, hcalled⟩ hrunning
    have hne : other ≠ id := fun e => hrunning (congrArg some e.symm)
    exact h.missing_of_spent ⟨by simpa using hcreated, by simpa [hne] using hcalled⟩
  · intro other e
    cases e
    exact ⟨⟨timer.once, h.found id timer hfind⟩, fun hr => hpresent (h.missing_of_retired hr)⟩

/-- After the call, a timer that fires only once is queued. -/
theorem finish {id : UInt32} (h : table.Agrees (some id) gone events) {once : Bool}
    (hcreated : .created id once ∈ events) :
    (if once then table.remove id else table).Agrees none gone events := by
  cases once with
  | false =>
    -- a timer that goes on firing is never spent
    refine { h with spent := ?_ }
    intro other hspent _
    refine h.spent other hspent ?_
    intro e
    obtain rfl := Option.some.inj e
    exact Bool.false_ne_true (h.once_unique id false true hcreated hspent.1)
  | true =>
    have hkept : (table.perform (.remove id)).Agrees (some id) gone events := h.perform rfl
    refine { hkept with spent := ?_ }
    intro other hspent _
    by_cases hother : id = other
    · exact Or.inl ((isPending_remove table other id).mpr (Or.inl hother))
    · exact hkept.spent other hspent fun e => hother (Option.some.inj e)

/-- A flush takes a retired timer out of the table for good. -/
theorem flush (h : table.Agrees none gone events) {id : UInt32} (hretired : Retired id events) :
    table.flush.2.Agrees none (· = id) events := by
  have hkept : (table.perform .flush).Agrees none gone events := h.perform rfl
  refine { hkept with gone := ?_ }
  rintro _ rfl
  refine ⟨hretired.known, ?_⟩
  rw [find?_flush]
  rcases h.missing_of_retired hretired with hpending | hnone
  · rw [if_pos hpending]
  · rw [hnone, ite_self]

end Agrees

end TimerTable

end ScriptHost
