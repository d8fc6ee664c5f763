import Mathlib.Data.List.Induction
import ScriptHost.Proofs.Timer.Table

/-!
# Runs of a timer table

A table is used in any order: timers are created, removed, polled and flushed, and the table is
cleared.  `performAll` is such a run, `runs_keep` the induction over one.

* `isPending_performAll`: the ids queued after a run are those removed since the last flush, whether
  or not there was a timer under them at the time.
* `Missing`: what a poll does not find, it does not find either after any other use of the table,
  until the id is given out.
-/

namespace ScriptHost

/-- A list with a last item is cut in two before that item, or at it. -/
theorem concat_eq_append_cons {α : Type} {items earlier later : List α} {last item : α} :
    items ++ [last] = earlier ++ item :: later
      ↔ (∃ rest, later = rest ++ [last] ∧ items = earlier ++ item :: rest) ∨
        (later = [] ∧ last = item ∧ items = earlier) := by
  constructor
  · intro h
    rcases later.eq_nil_or_concat with rfl | ⟨rest, final, rfl⟩
    · obtain ⟨hitems, hlast⟩ := List.append_inj' h rfl
      exact Or.inr ⟨rfl, List.singleton_inj.mp hlast, hitems⟩
    · rw [List.concat_eq_append, ← List.cons_append, ← List.append_assoc] at h
      obtain ⟨hitems, hlast⟩ := List.append_inj' h rfl
      rw [List.concat_eq_append, List.singleton_inj.mp hlast]
      exact Or.inl ⟨rest, rfl, hitems⟩
  · rintro (⟨rest, rfl, rfl⟩ | ⟨rfl, rfl, rfl⟩)
    · rw [List.append_assoc, List.cons_append]
    · rfl

/-- A use of a timer table. -/
inductive TimerOperation where
  | create (interval : Nat) (callback : FunctionHandle) (once : Bool) (now : Instant)
  | remove (id : UInt32)
  | flush
  | poll (id : UInt32) (now : Instant)
  | clear
deriving DecidableEq, Repr

namespace TimerOperation

def isCreate : TimerOperation → Bool
  | .create .. => true
  | _ => false

/-- The number of timers that a run creates. -/
def creations (operations : List TimerOperation) : Nat :=
  operations.countP isCreate

theorem creations_cons (operation : TimerOperation) (operations : List TimerOperation) :
    creations (operation :: operations)
      = creations operations + if operation.isCreate then 1 else 0 :=
  List.countP_cons

theorem creations_concat (operations : List TimerOperation) (operation : TimerOperation) :
    creations (operations ++ [operation])
      = creations operations + if operation.isCreate then 1 else 0 := by
  rw [creations, List.countP_append, List.countP_singleton, ← creations]

/-- A run that removes an id and neither flushes nor clears the table after that. -/
def Queues (id : UInt32) (operations : List TimerOperation) : Prop :=
  ∃ earlier later, operations = earlier ++ .remove id :: later ∧ .flush ∉ later ∧ .clear ∉ later

theorem not_queues_nil (id : UInt32) : ¬ Queues id [] := by
  rintro ⟨earlier, later, heq, -, -⟩
  simp at heq

theorem queues_concat {id : UInt32} {operations : List TimerOperation}
    {operation : TimerOperation} :
    Queues id (operations ++ [operation])
      ↔ operation = .remove id ∨
        (Queues id operations ∧ operation ≠ .flush ∧ operation ≠ .clear) := by
  constructor
  · rintro ⟨earlier, later, heq, hflush, hclear⟩
    rcases concat_eq_append_cons.mp heq with ⟨rest, rfl, rfl⟩ | ⟨-, rfl, -⟩
    · simp only [List.mem_append, List.mem_singleton, not_or] at hflush hclear
      refine Or.inr ⟨⟨earlier, rest, rfl, hflush.1, hclear.1⟩, ?_, ?_⟩
      · exact fun e => hflush.2 e.symm
      · exact fun e => hclear.2 e.symm
    · exact Or.inl rfl
  · rintro (rfl | ⟨⟨earlier, later, rfl, hflush, hclear⟩, hnflush, hnclear⟩)
    · exact ⟨operations, [], rfl, List.not_mem_nil, List.not_mem_nil⟩
    · refine ⟨earlier, later ++ [operation], by simp, ?_, ?_⟩
      · simpa [hflush] using hnflush.symm
      · simpa [hclear] using hnclear.symm

end TimerOperation

namespace TimerTable

open TimerOperation (creations Queues)

def perform (table : TimerTable) : TimerOperation → TimerTable
  | .create interval callback once now => (table.create interval callback once now).2.2
  | .remove id => table.remove id
  | .flush => table.flush.2
  | .poll id now => (table.poll id now).2
  | .clear => table.clear.2

def performAll (table : TimerTable) (operations : List TimerOperation) : TimerTable :=
  operations.foldl perform table

theorem performAll_concat (table : TimerTable) (operations : List TimerOperation)
    (operation : TimerOperation) :
    table.performAll (operations ++ [operation]) = (table.performAll operations).perform operation := by
  rw [performAll, List.foldl_append]
  rfl

/-! ## The queue -/

theorem isPending_remove (table : TimerTable) (id other : UInt32) :
    (table.remove other).isPending id = true ↔ other = id ∨ table.isPending id = true := by
  unfold remove
  split
  · next hother =>
    constructor
    · exact Or.inr
    · rintro (rfl | h)
      · exact hother
      · exact h
  · simp only [isPending, List.contains_iff_mem, List.mem_append, List.mem_singleton]
    constructor
    · rintro (h | rfl)
      · exact Or.inr h
      · exact Or.inl rfl
    · rintro (rfl | h)
      · exact Or.inr rfl
      · exact Or.inl h

theorem pending_poll (table : TimerTable) (id : UInt32) (now : Instant) :
    (table.poll id now).2.pending = table.pending := by
  rcases table.poll_cases id now with hp | hp | ⟨timer, -, hp⟩
  · rw [hp]
  · rw [hp]
  · rw [hp]

theorem isPending_poll (table : TimerTable) (id other : UInt32) (now : Instant) :
    (table.poll other now).2.isPending id = table.isPending id := by
  rw [isPending, pending_poll, isPending]

/-- An id is queued by its own removal only. -/
theorem isPending_perform_of_ne {table : TimerTable} {id : UInt32} {operation : TimerOperation}
    (hactive : table.isPending id = false) (hremove : operation ≠ .remove id) :
    (table.perform operation).isPending id = false := by
  cases operation with
  | create => exact hactive
  | remove other =>
    have hne : other ≠ id := fun e => hremove (e ▸ rfl)
    rw [Bool.eq_false_iff, ne_eq, perform, isPending_remove, hactive]
    simp [hne]
  | flush => rfl
  | poll other now => exact (isPending_poll table id other now).trans hactive
  | clear => rfl

/-- The queue remembers every removal until the next flush, whatever id was removed. -/
theorem isPending_performAll (operations : List TimerOperation) (id : UInt32) :
    (({} : TimerTable).performAll operations).isPending id = true ↔ Queues id operations := by
  induction operations using List.reverseRecOn with
  | nil => exact iff_of_false Bool.false_ne_true (TimerOperation.not_queues_nil id)
  | append_singleton operations operation ih =>
    rw [performAll_concat, TimerOperation.queues_concat, ← ih]
    cases operation with
    | create interval callback once now => simp [perform, create, isPending]
    | remove other => simp [perform, isPending_remove]
    | flush => simp [perform, flush, isPending]
    | poll other now => simp [perform, isPending_poll]
    | clear => simp [perform, clear, isPending]

/-! ## Numbering along runs -/

section Numbering

variable {table : TimerTable}

theorem WellFormed.perform (h : table.WellFormed) (operation : TimerOperation) :
    (table.perform operation).WellFormed := by
  cases operation with
  | create interval callback once now => exact h.create interval callback once now
  | remove id => exact h.remove id
  | flush => exact h.flush
  | poll id now => exact h.poll id now
  | clear => exact WellFormed.clear table

theorem wellFormed_performAll (operations : List TimerOperation) :
    (({} : TimerTable).performAll operations).WellFormed := by
  induction operations using List.reverseRecOn with
  | nil => exact wellFormed_empty
  | append_singleton operations operation ih =>
    rw [performAll_concat]
    exact ih.perform operation

theorem Numbered.perform {n : Nat} (h : table.Numbered n) {operation : TimerOperation}
    (hop : operation.isCreate = false) : (table.perform operation).Numbered n := by
  cases operation with
  | create => cases hop
  | remove id => exact h.remove id
  | flush => exact h.flush
  | poll id now => exact h.poll id now
  | clear => exact h.clear

/-- What is found later was there before, unless it has been created. -/
theorem find?_perform {operation : TimerOperation} (hop : operation.isCreate = false)
    {id : UInt32} {timer : Timer} (h : (table.perform operation).find? id = some timer) :
    ∃ before, table.find? id = some before ∧ before.callback = timer.callback ∧
      before.once = timer.once := by
  cases operation with
  | create => cases hop
  | remove other => exact ⟨timer, (find?_remove table id other).symm.trans h, rfl, rfl⟩
  | flush =>
    rw [TimerTable.perform, find?_flush] at h
    split at h
    · cases h
    · exact ⟨timer, h, rfl, rfl⟩
  | poll other now =>
    rw [TimerTable.perform] at h
    rcases table.poll_cases other now with hp | hp | ⟨due, ⟨hfound, -, -⟩, hp⟩
    · rw [hp] at h
      exact ⟨timer, h, rfl, rfl⟩
    · rw [hp] at h
      exact ⟨timer, h, rfl, rfl⟩
    · rw [hp] at h
      simp only [find?, Keyed.find?_insert] at h
      split at h
      · next heq =>
        obtain rfl := Option.some.inj h
        rw [heq] at hfound
        exact ⟨due, hfound, rfl, rfl⟩
      · exact ⟨timer, h, rfl, rfl⟩
  | clear => cases h

theorem numbered_performAll {operations : List TimerOperation}
    (h : creations operations < UInt32.size - 1) :
    Numbered (creations operations) (({} : TimerTable).performAll operations) := by
  induction operations using List.reverseRecOn with
  | nil => exact numbered_empty
  | append_singleton operations operation ih =>
    rw [performAll_concat]
    rw [TimerOperation.creations_concat] at h ⊢
    have hbefore := ih (Nat.lt_of_le_of_lt (Nat.le_add_right _ _) h)
    cases hop : operation.isCreate with
    | false => exact hbefore.perform hop
    | true =>
      rw [hop] at h
      cases operation with
      | create interval callback once now => exact hbefore.create h interval callback once now
      | remove | flush | poll | clear => cases hop

theorem nextId_perform (table : TimerTable) (operation : TimerOperation) :
    (table.perform operation).nextId
      = if operation.isCreate then table.nextId + 1 else table.nextId := by
  cases operation with
  | create interval callback once now => rfl
  | remove id =>
    rw [perform, remove]
    split <;> rfl
  | flush => rfl
  | poll id now =>
    rw [perform]
    rcases table.poll_cases id now with hp | hp | ⟨timer, -, hp⟩
    · rw [hp]
      rfl
    · rw [hp]
      rfl
    · rw [hp]
      rfl
  | clear => rfl

/-- The number of creations that are left until `id` is given out. -/
def roomBefore (id : UInt32) (table : TimerTable) : Nat :=
  (id - table.nextId).toNat

theorem nextId_ne_of_room {id : UInt32} (h : 0 < roomBefore id table) : table.nextId ≠ id := by
  rintro rfl
  simp [roomBefore] at h

/-- A creation takes one from the room before an id that it does not give out. -/
theorem roomBefore_perform {id : UInt32} {operation : TimerOperation}
    (h : operation.isCreate = true → 0 < roomBefore id table) :
    roomBefore id (table.perform operation) + creations [operation] = roomBefore id table := by
  unfold roomBefore at *
  rw [nextId_perform, creations, List.countP_singleton]
  split
  · next hcreate =>
    have hpos := h hcreate
    have hid := id.toNat_lt
    have hnext := table.nextId.toNat_lt
    have hone : (1 : UInt32).toNat = 1 := rfl
    rw [UInt32.toNat_sub] at hpos
    rw [UInt32.toNat_sub, UInt32.toNat_sub, UInt32.toNat_add, hone]
    omega
  · rfl

/-- Right after an id is given out, all others come before it again. -/
theorem roomBefore_created (interval : Nat) (callback : FunctionHandle) (once : Bool)
    (now : Instant) :
    roomBefore table.nextId (table.create interval callback once now).2.2 = UInt32.size - 1 := by
  show (table.nextId - (table.nextId + 1)).toNat = UInt32.size - 1
  have hsub : table.nextId - (table.nextId + 1) = 0 - 1 := by grind
  rw [hsub]
  rfl

/-- In a run that does not get as far as giving out `id`, the first operation does not give it out,
and the others do not get so far either. -/
theorem room_cons {id : UInt32} {operation : TimerOperation} {rest : List TimerOperation}
    (hroom : creations (operation :: rest) ≤ roomBefore id table) :
    (operation.isCreate = true → table.nextId ≠ id) ∧
      creations rest ≤ roomBefore id (table.perform operation) := by
  have hcons : creations (operation :: rest) = creations rest + creations [operation] := by
    rw [creations, creations, creations, List.countP_cons, List.countP_singleton]
  have hpos : operation.isCreate = true → 0 < roomBefore id table := by
    intro hcreate
    have hone : creations [operation] = 1 := by
      rw [creations, List.countP_singleton, if_pos hcreate]
    omega
  have htaken := roomBefore_perform hpos
  exact ⟨fun hcreate => nextId_ne_of_room (hpos hcreate), by omega⟩

/-- What every use of the table keeps holds after a run that does not get as far as giving out
`id` again. -/
theorem runs_keep {Keeps : TimerTable → Prop} (id : UInt32) {operations : List TimerOperation}
    (hroom : creations operations ≤ roomBefore id table)
    (hstep : ∀ table operation, operation ∈ operations → Keeps table →
      (operation.isCreate = true → table.nextId ≠ id) → Keeps (table.perform operation))
    (h : Keeps table) : Keeps (table.performAll operations) := by
  induction operations generalizing table with
  | nil => exact h
  | cons operation rest ih =>
    obtain ⟨hnext, hrest⟩ := room_cons hroom
    refine ih hrest ?_ (hstep table operation List.mem_cons_self h hnext)
    intro table other hother
    exact hstep table other (List.mem_cons_of_mem _ hother)

/-- An id that a poll does not find: nothing is under it, or it is queued. -/
def Missing (id : UInt32) (table : TimerTable) : Prop :=
  table.isPending id = true ∨ table.find? id = none

theorem Missing.poll_eq {id : UInt32} (h : Missing id table) (now : Instant) :
    table.poll id now = (.missing, table) := by
  unfold TimerTable.poll
  rcases h with hpending | hnone
  · rw [if_pos hpending]
  · rw [hnone]
    split <;> rfl

/-- An id stays missing until it is given out. -/
theorem Missing.perform {id : UInt32} (h : Missing id table) {operation : TimerOperation}
    (hnext : operation.isCreate = true → table.nextId ≠ id) :
    Missing id (table.perform operation) := by
  cases operation with
  | create interval callback once now =>
    have hne : id ≠ table.nextId := fun e => hnext rfl e.symm
    rcases h with hpending | hnone
    · exact Or.inl hpending
    · exact Or.inr ((find?_create hne).trans hnone)
  | remove other =>
    rcases h with hpending | hnone
    · exact Or.inl ((isPending_remove table id other).mpr (Or.inr hpending))
    · exact Or.inr ((find?_remove table id other).trans hnone)
  | flush =>
    rw [TimerTable.perform, Missing, find?_flush]
    rcases h with hpending | hnone
    · rw [if_pos hpending]
      exact Or.inr rfl
    · rw [hnone, ite_self]
      exact Or.inr rfl
  | poll other now =>
    rcases h with hpending | hnone
    · exact Or.inl ((isPending_poll table id other now).trans hpending)
    · have hcallback := table.callback_poll id other now
      rw [hnone] at hcallback
      exact Or.inr (Option.map_eq_none_iff.mp hcallback)
  | clear => exact Or.inr rfl

end Numbering

end TimerTable

end ScriptHost
