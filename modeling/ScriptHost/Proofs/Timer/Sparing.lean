import ScriptHost.Proofs.Timer.Retirement

/-!
# Stretches that spare a timer

In the course of a tick one timer after the other has its turn, while callbacks create and clear
timers.  `Spares` is what a stretch of such work leaves of the table, as far as it concerns timers
that have no turn in it: they stay as they are, and are queued for removal exactly if they are
cleared; timers that are created are new, and stay.
-/

namespace ScriptHost.TimerTable

open TimerEvent (creations)

/-- On the way from one table to another, the events `shown` are told of, and only the timers that
are `turned` are polled or called, or queued without being cleared.  At its beginning `n` ids have
been given out. -/
structure Spares (turned : UInt32 → Prop) (n : Nat) (shown : List TimerEvent)
    (table table' : TimerTable) : Prop where
  numbered : table'.Numbered (n + creations shown)
  find?_eq : ∀ id, ¬ turned id → id.toNat ≤ n → table'.find? id = table.find? id
  pending_iff : ∀ id, ¬ turned id →
    (table'.isPending id = true ↔ table.isPending id = true ∨ .cleared id ∈ shown)
  contains : ∀ id, table.contains id = true → table'.contains id = true
  contained : ∀ id, table'.contains id = true →
    table.contains id = true ∨ ∃ once, .created id once ∈ shown
  created : ∀ id once, .created id once ∈ shown → n < id.toNat ∧ table'.contains id = true
  called : ∀ id, .called id ∈ shown → turned id

variable {turned turned' : UInt32 → Prop} {n : Nat} {shown shown' : List TimerEvent}
  {table table' table'' : TimerTable}

theorem creations_append (shown shown' : List TimerEvent) :
    creations (shown ++ shown') = creations shown + creations shown' :=
  List.countP_append

theorem Numbered.le_of_find? (h : table.Numbered n) {id : UInt32} {timer : Timer}
    (hfind : table.find? id = some timer) : id.toNat ≤ n :=
  h.ids_le id (List.mem_map_of_mem (Keyed.mem_of_find? hfind))

namespace Spares

theorem refl (h : table.Numbered n) : table.Spares turned n [] table where
  numbered := h
  find?_eq _ _ _ := rfl
  pending_iff id _ := by simp
  contains _ h := h
  contained _ h := Or.inl h
  created := by simp
  called := by simp

theorem trans (h : table.Spares turned n shown table')
    (h' : table'.Spares turned' (n + creations shown) shown' table'') :
    table.Spares (fun id => turned id ∨ turned' id) n (shown ++ shown') table'' where
  numbered := by
    rw [creations_append, ← Nat.add_assoc]
    exact h'.numbered
  find?_eq id hturned hid := by
    rw [not_or] at hturned
    have hlater : id.toNat ≤ n + creations shown := by omega
    rw [h'.find?_eq id hturned.2 hlater, h.find?_eq id hturned.1 hid]
  pending_iff id hturned := by
    rw [not_or] at hturned
    rw [h'.pending_iff id hturned.2, h.pending_iff id hturned.1, List.mem_append, or_assoc]
  contains id hid := h'.contains id (h.contains id hid)
  contained id hid := by
    rcases h'.contained id hid with hmiddle | ⟨once, hcreated⟩
    · rcases h.contained id hmiddle with hbefore | ⟨once, hcreated⟩
      · exact Or.inl hbefore
      · exact Or.inr ⟨once, List.mem_append_left _ hcreated⟩
    · exact Or.inr ⟨once, List.mem_append_right _ hcreated⟩
  created id once hcreated := by
    rcases List.mem_append.mp hcreated with hfirst | hsecond
    · obtain ⟨hnew, hmiddle⟩ := h.created id once hfirst
      exact ⟨hnew, h'.contains id hmiddle⟩
    · obtain ⟨hnew, hlast⟩ := h'.created id once hsecond
      exact ⟨by omega, hlast⟩
  called id hcalled := by
    rcases List.mem_append.mp hcalled with hfirst | hsecond
    · exact Or.inl (h.called id hfirst)
    · exact Or.inr (h'.called id hsecond)

theorem mono (h : table.Spares turned n shown table') (hmono : ∀ id, turned id → turned' id) :
    table.Spares turned' n shown table' where
  numbered := h.numbered
  find?_eq id hturned := h.find?_eq id fun hid => hturned (hmono id hid)
  pending_iff id hturned := h.pending_iff id fun hid => hturned (hmono id hid)
  contains := h.contains
  contained := h.contained
  created := h.created
  called id hcalled := hmono id (h.called id hcalled)

/-! ### Uses of the table -/

/-- A timer is created, under an id that is new. -/
theorem create (h : table.Numbered n) (hbound : n + 1 < UInt32.size - 1) (interval : Nat)
    (callback : FunctionHandle) (once : Bool) (now : Instant) :
    table.Spares turned n [.created table.nextId once]
      (table.create interval callback once now).2.2 where
  numbered := h.create hbound interval callback once now
  find?_eq id _ hid := by
    have hnext := h.nextId_eq
    exact find?_create fun e => by
      rw [e] at hid
      omega
  pending_iff id _ := by simp [TimerTable.create, isPending]
  contains id hid := by
    by_cases hnew : id = table.nextId
    · simp [TimerTable.create, TimerTable.contains, find?, Keyed.find?_insert, hnew]
    · rwa [TimerTable.contains, find?_create hnew]
  contained id hid := by
    by_cases hnew : id = table.nextId
    · exact Or.inr ⟨once, by simp [hnew]⟩
    · rw [TimerTable.contains, find?_create hnew] at hid
      exact Or.inl hid
  created id once' hcreated := by
    cases List.mem_singleton.mp hcreated
    have hnext := h.nextId_eq
    refine ⟨by omega, ?_⟩
    simp [TimerTable.create, TimerTable.contains, find?, Keyed.find?_insert]
  called id hcalled := by cases List.mem_singleton.mp hcalled

/-- A script clears a timer, whether it has a turn or not. -/
theorem clear (h : table.Numbered n) (id : UInt32) :
    table.Spares turned n [.cleared id] (table.remove id) where
  numbered := h.remove id
  find?_eq other _ _ := find?_remove table other id
  pending_iff other _ := by
    rw [isPending_remove, List.mem_singleton, TimerEvent.cleared.injEq, or_comm,
      @eq_comm _ id other]
  contains other hother := by rwa [TimerTable.contains, find?_remove]
  contained other hother := by
    rw [TimerTable.contains, find?_remove] at hother
    exact Or.inl hother
  created other once hcreated := by cases List.mem_singleton.mp hcreated
  called other hcalled := by cases List.mem_singleton.mp hcalled

/-- Scripts spare every timer. -/
theorem scriptStep (h : table.Numbered n) (hstep : table.ScriptStep shown table')
    (hbound : n + creations shown < UInt32.size - 1) : table.Spares turned n shown table' := by
  cases hstep with
  | nothing => exact refl h
  | created interval callback once now => exact create h hbound interval callback once now
  | cleared id => exact clear h id

/-- A timer that has its turn is called. -/
theorem call (h : table.Numbered n) {id : UInt32} (hid : turned id) :
    table.Spares turned n [.called id] table where
  numbered := h
  find?_eq _ _ _ := rfl
  pending_iff other _ := by simp
  contains _ h := h
  contained _ h := Or.inl h
  created other once hcreated := by cases List.mem_singleton.mp hcreated
  called other hcalled := by
    cases List.mem_singleton.mp hcalled
    exact hid

/-- A timer that has its turn is polled. -/
theorem poll (h : table.Numbered n) {id : UInt32} (hid : turned id) (now : Instant) :
    table.Spares turned n [] (table.poll id now).2 := by
  have hcontains : ∀ other, (table.poll id now).2.contains other = table.contains other := by
    intro other
    have hcallback := congrArg Option.isSome (table.callback_poll other id now)
    rwa [Option.isSome_map, Option.isSome_map] at hcallback
  refine ⟨h.poll id now, ?_, ?_, ?_, ?_, by simp, by simp⟩
  · intro other hother _
    exact find?_poll_of_ne fun e => hother (e ▸ hid)
  · intro other _
    rw [isPending_poll]
    simp
  · intro other hother
    rwa [hcontains]
  · intro other hother
    rw [hcontains] at hother
    exact Or.inl hother

/-- A timer that has its turn is queued for removal. -/
theorem remove (h : table.Numbered n) {id : UInt32} (hid : turned id) :
    table.Spares turned n [] (table.remove id) := by
  have hcleared : table.Spares turned n [.cleared id] (table.remove id) := clear h id
  refine { hcleared with pending_iff := ?_, contained := ?_, created := by simp, called := by simp }
  · intro other hother
    have hne : id ≠ other := fun e => hother (e ▸ hid)
    rw [isPending_remove]
    simp [hne]
  · intro other hcontained
    rw [TimerTable.contains, find?_remove] at hcontained
    exact Or.inl hcontained

end Spares

end ScriptHost.TimerTable
