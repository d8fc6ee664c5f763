import ScriptHost.Proofs.Keyed
import ScriptHost.Timer

/-!
# The timer table: nothing is lost

`WellFormed` is the invariant of a timer table: its ids ascend and none is queued for removal
twice.  Under it every operation accounts for all callbacks: those in the table afterwards and
those it hands out are those that were in the table, and the new one of a creation.  `Numbered`
says how many ids have been given out, so that the next one is known to be new.
-/

namespace ScriptHost.TimerTable

structure WellFormed (table : TimerTable) : Prop where
  ascending : Keyed.Ascending table.timers
  pending_nodup : table.pending.Nodup

theorem wellFormed_empty : ({} : TimerTable).WellFormed :=
  ⟨List.Pairwise.nil, List.nodup_nil⟩

/-- A timer that a poll runs: it is in the table, it is not queued, and its interval is over. -/
structure Due (table : TimerTable) (id : UInt32) (now : Instant) (timer : Timer) : Prop where
  found : table.find? id = some timer
  not_pending : table.isPending id = false
  elapsed : timer.interval ≤ now.elapsedSince timer.lastRun

/-- A poll either changes nothing, or finds a timer that is due and restarts it. -/
theorem poll_cases (table : TimerTable) (id : UInt32) (now : Instant) :
    table.poll id now = (.idle, table) ∨ table.poll id now = (.missing, table) ∨
      ∃ timer, table.Due id now timer ∧
        table.poll id now = (.fire timer.callback timer.once,
          { table with timers := Keyed.insert id { timer with lastRun := now } table.timers }) := by
  unfold poll
  split
  · exact Or.inr (Or.inl rfl)
  · next hactive =>
    split
    · exact Or.inr (Or.inl rfl)
    · next timer hfind =>
      split
      · next hdue =>
        exact Or.inr (Or.inr ⟨timer, ⟨hfind, Bool.eq_false_iff.mpr hactive, hdue⟩, rfl⟩)
      · exact Or.inl rfl

theorem Due.poll_eq {table : TimerTable} {id : UInt32} {now : Instant} {timer : Timer}
    (h : table.Due id now timer) :
    table.poll id now = (.fire timer.callback timer.once,
      { table with timers := Keyed.insert id { timer with lastRun := now } table.timers }) := by
  simp [poll, h.found, h.not_pending, h.elapsed]

/-! ## The invariant -/

section WellFormed

variable {table : TimerTable}

theorem WellFormed.create (h : table.WellFormed) (interval : Nat) (callback : FunctionHandle)
    (once : Bool) (now : Instant) : (table.create interval callback once now).2.2.WellFormed :=
  ⟨Keyed.ascending_insert _ _ h.ascending, h.pending_nodup⟩

theorem WellFormed.remove (h : table.WellFormed) (id : UInt32) :
    (table.remove id).WellFormed := by
  unfold TimerTable.remove
  split
  · exact h
  · next hnot =>
    refine ⟨h.ascending, ?_⟩
    have hmem : id ∉ table.pending := by simpa [isPending] using hnot
    refine List.nodup_append.mpr ⟨h.pending_nodup, by simp, ?_⟩
    intro a ha b hb
    rw [List.mem_singleton.mp hb]
    exact fun e => hmem (e ▸ ha)

theorem WellFormed.flush (h : table.WellFormed) : table.flush.2.WellFormed :=
  ⟨h.ascending.filter _, List.nodup_nil⟩

theorem WellFormed.poll (h : table.WellFormed) (id : UInt32) (now : Instant) :
    (table.poll id now).2.WellFormed := by
  rcases table.poll_cases id now with hp | hp | ⟨timer, -, hp⟩
  · rw [hp]
    exact h
  · rw [hp]
    exact h
  · rw [hp]
    exact ⟨Keyed.ascending_insert _ _ h.ascending, h.pending_nodup⟩

theorem WellFormed.clear (table : TimerTable) : table.clear.2.WellFormed :=
  ⟨List.Pairwise.nil, List.nodup_nil⟩

end WellFormed

/-! ## Callbacks -/

section Callbacks

variable {table : TimerTable}

/-- A creation adds its callback and hands out the one whose id it takes, if any. -/
theorem create_callbacks_perm (h : table.WellFormed) (interval : Nat) (callback : FunctionHandle)
    (once : Bool) (now : Instant) :
    ((table.create interval callback once now).2.1.toList
        ++ (table.create interval callback once now).2.2.callbacks).Perm
      (callback :: table.callbacks) := by
  have hperm := Keyed.insert_perm_cons table.nextId (Timer.mk callback interval now once)
    h.ascending
  have hmap := hperm.map (·.2.callback)
  cases hfind : Keyed.find? table.nextId table.timers <;>
    simpa [create, callbacks, find?, hfind] using hmap

theorem remove_callbacks (table : TimerTable) (id : UInt32) :
    (table.remove id).callbacks = table.callbacks := by
  unfold remove
  split <;> rfl

/-- A poll changes when a timer ran last, never what it calls. -/
theorem poll_callbacks_perm (h : table.WellFormed) (id : UInt32) (now : Instant) :
    (table.poll id now).2.callbacks.Perm table.callbacks := by
  rcases table.poll_cases id now with hp | hp | ⟨timer, ⟨hfind, -, -⟩, hp⟩
  · rw [hp]
  · rw [hp]
  · rw [hp]
    have hperm := Keyed.insert_perm_cons id { timer with lastRun := now } h.ascending
    have hmap := hperm.map (·.2.callback)
    rw [find?] at hfind
    rw [hfind] at hmap
    exact List.Perm.cons_inv hmap

/-- A flush hands out the callbacks that it takes from the table, each once. -/
theorem flush_callbacks_perm (h : table.WellFormed) :
    (table.flush.1 ++ table.flush.2.callbacks).Perm table.callbacks := by
  have hout := (Keyed.filterMap_find?_perm h.pending_nodup h.ascending.nodup).map (·.callback)
  have hall := (List.filter_append_perm (fun e : UInt32 × Timer => table.isPending e.1)
    table.timers).map (·.2.callback)
  rw [List.map_append] at hall
  refine List.Perm.trans (List.Perm.append_right _ ?_) hall
  simpa [flush, find?, isPending, List.map_filterMap, Function.comp_def] using hout

end Callbacks

/-! ## The queue -/

/-- The timers that are queued for removal, in the order of the queue. -/
def queued (table : TimerTable) : List (UInt32 × Timer) :=
  table.pending.filterMap fun id => (table.find? id).map (id, ·)

theorem mem_queued {table : TimerTable} {id : UInt32} {timer : Timer} :
    (id, timer) ∈ table.queued ↔ table.isPending id = true ∧ table.find? id = some timer := by
  simp only [queued, List.mem_filterMap, Option.map_eq_some_iff, Prod.mk.injEq, isPending,
    List.contains_iff_mem]
  constructor
  · rintro ⟨_, hmem, _, hfind, rfl, rfl⟩
    exact ⟨hmem, hfind⟩
  · rintro ⟨hmem, hfind⟩
    exact ⟨id, hmem, timer, hfind, rfl, rfl⟩

/-- No timer is queued twice. -/
theorem WellFormed.queued_nodup {table : TimerTable} (h : table.WellFormed) :
    (table.queued.map (·.1)).Nodup := by
  have hids : table.queued.map (·.1) = table.pending.filter table.contains := by
    unfold queued contains
    induction table.pending with
    | nil => rfl
    | cons id rest ih =>
      cases hfind : table.find? id with
      | none => simp [hfind, ih]
      | some timer => simp [hfind, ih]
  rw [hids]
  exact h.pending_nodup.filter _

/-- A flush hands out the callback of each queued timer. -/
theorem flush_eq_queued (table : TimerTable) :
    table.flush.1 = table.queued.map (·.2.callback) := by
  rw [flush, queued, List.map_filterMap]
  simp only [Option.map_map, Function.comp_def]

/-- The timers that are not queued for removal, by ascending id. -/
def activeIds (table : TimerTable) : List UInt32 :=
  table.ids.filter fun id => !table.isPending id

theorem ids_flush (table : TimerTable) : table.flush.2.ids = table.activeIds := by
  rw [activeIds, ids, ids, List.filter_map]
  rfl

theorem mem_ids {table : TimerTable} {id : UInt32} :
    id ∈ table.ids ↔ table.contains id = true := by
  rw [contains, Option.isSome_iff_ne_none, ne_eq, find?, Keyed.find?_eq_none, not_not]
  rfl

/-! ## Keeping a timer -/

/-- A timer that is in the table stays there with its callback when another id is created. -/
theorem find?_create {table : TimerTable} {interval : Nat} {callback : FunctionHandle}
    {once : Bool} {now : Instant} {id : UInt32} (h : id ≠ table.nextId) :
    (table.create interval callback once now).2.2.find? id = table.find? id := by
  have hne : table.nextId ≠ id := fun e => h e.symm
  simp [create, find?, Keyed.find?_insert, hne]

theorem find?_remove (table : TimerTable) (id other : UInt32) :
    (table.remove other).find? id = table.find? id := by
  unfold remove
  split <;> rfl

/-- A flush takes the queued timers out and keeps all others as they are. -/
theorem find?_flush (table : TimerTable) (id : UInt32) :
    table.flush.2.find? id = if table.isPending id then none else table.find? id := by
  have hfilter := Keyed.find?_filter_keys (fun key => !table.isPending key) id table.timers
  rw [find?, flush, hfilter, find?]
  cases table.isPending id <;> rfl

/-- A poll changes no timer but its own. -/
theorem find?_poll_of_ne {table : TimerTable} {id other : UInt32} {now : Instant}
    (h : other ≠ id) : (table.poll other now).2.find? id = table.find? id := by
  rcases table.poll_cases other now with hp | hp | ⟨due, -, hp⟩
  · rw [hp]
  · rw [hp]
  · rw [hp]
    exact (Keyed.find?_insert other id _ table.timers).trans (if_neg h)

theorem callback_poll (table : TimerTable) (id other : UInt32) (now : Instant) :
    ((table.poll other now).2.find? id).map (·.callback) = (table.find? id).map (·.callback) := by
  rcases table.poll_cases other now with hp | hp | ⟨timer, ⟨hfind, -, -⟩, hp⟩
  · rw [hp]
  · rw [hp]
  · rw [hp]
    simp only [find?, Keyed.find?_insert]
    split
    · next heq =>
      rw [find?, heq] at hfind
      rw [hfind]
      rfl
    · rfl

/-! ## Numbering -/

/-- The ids from 1 to `n` have been given out, and none other is in use. -/
structure Numbered (n : Nat) (table : TimerTable) : Prop where
  nextId_eq : table.nextId.toNat = n + 1
  ids_le : ∀ id ∈ table.ids, id.toNat ≤ n

theorem numbered_empty : Numbered 0 {} :=
  ⟨rfl, by simp [ids]⟩

variable {n : Nat} {table : TimerTable}

/-- The next id is none of those in the table. -/
theorem Numbered.find?_ne (h : Numbered n table) {id : UInt32} {timer : Timer}
    (hfind : table.find? id = some timer) : id ≠ table.nextId := by
  intro heq
  have hmem : id ∈ table.ids := List.mem_map_of_mem (Keyed.mem_of_find? hfind)
  have hle := h.ids_le id hmem
  rw [heq, h.nextId_eq] at hle
  omega

/-- The ids of the timers come before the next id, as long as they have not run out. -/
theorem Numbered.lt_nextId (h : Numbered n table) {id : UInt32} (hid : id ∈ table.ids) :
    id < table.nextId := by
  rw [UInt32.lt_iff_toNat_lt, h.nextId_eq]
  exact Nat.lt_succ_of_le (h.ids_le id hid)

theorem Numbered.create (h : Numbered n table) (hn : n + 1 < UInt32.size - 1) (interval : Nat)
    (callback : FunctionHandle) (once : Bool) (now : Instant) :
    Numbered (n + 1) (table.create interval callback once now).2.2 := by
  constructor
  · show (table.nextId + 1).toNat = n + 1 + 1
    have hlt : n + 1 + 1 < UInt32.size := by omega
    rw [UInt32.toNat_add, h.nextId_eq]
    exact Nat.mod_eq_of_lt hlt
  · intro id hid
    rcases Keyed.mem_keys_insert.mp hid with rfl | hold
    · exact Nat.le_of_eq h.nextId_eq
    · exact Nat.le_succ_of_le (h.ids_le id hold)

theorem Numbered.remove (h : Numbered n table) (id : UInt32) : Numbered n (table.remove id) := by
  unfold TimerTable.remove
  split
  · exact h
  · exact ⟨h.nextId_eq, h.ids_le⟩

theorem Numbered.flush (h : Numbered n table) : Numbered n table.flush.2 := by
  refine ⟨h.nextId_eq, ?_⟩
  intro id hid
  exact h.ids_le id (List.filter_sublist.map _ |>.subset hid)

theorem Numbered.poll (h : Numbered n table) (id : UInt32) (now : Instant) :
    Numbered n (table.poll id now).2 := by
  rcases table.poll_cases id now with hp | hp | ⟨timer, ⟨hfind, -, -⟩, hp⟩
  · rw [hp]
    exact h
  · rw [hp]
    exact h
  · rw [hp]
    refine ⟨h.nextId_eq, ?_⟩
    intro other hother
    rcases Keyed.mem_keys_insert.mp hother with rfl | hold
    · exact h.ids_le _ (List.mem_map_of_mem (Keyed.mem_of_find? hfind))
    · exact h.ids_le other hold

theorem Numbered.clear (h : Numbered n table) : Numbered n table.clear.2 :=
  ⟨h.nextId_eq, by simp [TimerTable.clear, ids]⟩

end ScriptHost.TimerTable
