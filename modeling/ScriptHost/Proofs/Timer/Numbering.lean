import ScriptHost.Proofs.Timer.Creation

/-!
# The numbers of timers

Ids are numbers of 32 bits.  They are given out in ascending order from 1, go on with 0 after the
greatest, and then come in the same order again.  `CreatesFresh` is what a creation promises of the
timers that are there already, and `create_fresh_iff` says for which tables the promise is kept, and
for how many creations it is kept whatever else is done.
-/

namespace ScriptHost.TimerTable

open TimerOperation (creations)

variable {table : TimerTable} {interval : Nat} {callback : FunctionHandle} {once : Bool}
  {now : Instant}

/-! ## Ids -/

/-- The id that is next tells how many have been given out, but for whole rounds of them. -/
theorem nextId_performAll (history : List TimerOperation) :
    (({} : TimerTable).performAll history).nextId = UInt32.ofNat (creations history + 1) := by
  induction history using List.reverseRecOn with
  | nil => rfl
  | append_singleton history operation ih =>
    rw [performAll_concat, nextId_perform, ih, TimerOperation.creations_concat]
    split
    · rw [UInt32.ofNat_add (creations history + 1) 1]
      rfl
    · rfl

/-- Whatever is done but for a creation, the ids stay in their order. -/
theorem ids_perform_sublist (h : table.WellFormed) {operation : TimerOperation}
    (hop : operation.isCreate = false) :
    (table.perform operation).ids.Sublist table.ids := by
  cases operation with
  | create => cases hop
  | remove id =>
    rw [perform, remove]
    split <;> exact List.Sublist.refl _
  | flush => exact List.filter_sublist.map _
  | poll id now =>
    rw [perform]
    rcases table.poll_cases id now with hp | hp | ⟨timer, hdue, hp⟩
    · rw [hp]
    · rw [hp]
    · have hmem : id ∈ table.timers.map (·.1) :=
        List.mem_map_of_mem (Keyed.mem_of_find? hdue.found)
      rw [hp, ids, Keyed.keys_insert_of_mem _ h.ascending hmem]
      exact List.Sublist.refl _
  | clear => exact List.nil_sublist _

/-! ## What a creation promises -/

/-- What the creation of a timer promises of the others: the id that it gives is not in use, so
that it takes no callback from anyone; the new timer is found under it; all others stay as they
are; and the list of ids, which is in the order of creation, is continued with the new one. -/
structure CreatesFresh (table : TimerTable) (interval : Nat) (callback : FunctionHandle)
    (once : Bool) (now : Instant) : Prop where
  not_contains : table.contains (table.create interval callback once now).1 = false
  displaces : (table.create interval callback once now).2.1 = none
  created : (table.create interval callback once now).2.2.find?
    (table.create interval callback once now).1 = some ⟨callback, interval, now, once⟩
  spares : ∀ id timer, table.find? id = some timer →
    (table.create interval callback once now).2.2.find? id = some timer
  ids_eq : (table.create interval callback once now).2.2.ids
    = table.ids ++ [(table.create interval callback once now).1]

theorem createsFresh_of_lt (h : ∀ id ∈ table.ids, id < table.nextId) :
    CreatesFresh table interval callback once now := by
  have hfree : table.find? table.nextId = none :=
    Keyed.find?_eq_none.mpr fun hmem => UInt32.lt_irrefl _ (h _ hmem)
  refine ⟨?_, ?_, ?_, ?_, ?_⟩
  · show (table.find? table.nextId).isSome = false
    rw [hfree]
    rfl
  · show (table.find? table.nextId).map (·.callback) = none
    rw [hfree]
    rfl
  · exact (Keyed.find?_insert _ _ _ _).trans (if_pos rfl)
  · intro id timer hfind
    have hne : id ≠ table.nextId := by
      rintro rfl
      rw [hfree] at hfind
      cases hfind
    rw [find?_create hne, hfind]
  · show (Keyed.insert table.nextId _ table.timers).map (·.1) = _
    rw [Keyed.insert_eq_append _ h, List.map_append]
    rfl

/-- The promise is kept exactly if all ids in use come before the next one. -/
theorem createsFresh_iff_lt (hwf : table.WellFormed) :
    CreatesFresh table interval callback once now ↔ ∀ id ∈ table.ids, id < table.nextId := by
  constructor
  · intro hfresh
    -- the table stays sorted, so its last id can be the new one only if that is the greatest
    have hascending : (table.create interval callback once now).2.2.ids.Pairwise (· < ·) :=
      (hwf.create interval callback once now).ascending
    rw [hfresh.ids_eq, List.pairwise_append] at hascending
    intro id hid
    exact hascending.2.2 id hid table.nextId (List.mem_singleton_self _)
  · exact createsFresh_of_lt

/-! ## How long the ids last -/

theorem mem_ids_create {id : UInt32} :
    id ∈ (table.create interval callback once now).2.2.ids ↔ id = table.nextId ∨ id ∈ table.ids :=
  Keyed.mem_keys_insert

theorem creations_replicate (count : Nat) (interval : Nat) (callback : FunctionHandle)
    (once : Bool) (now : Instant) :
    creations (List.replicate count (.create interval callback once now)) = count := by
  rw [creations, List.countP_replicate]
  rfl

/-- Once the greatest id has been given to a timer that stays, every creation that follows gives an
id that is not greater. -/
theorem not_createsFresh_replicate {count : Nat} (h : UInt32.size - 1 ≤ count) (interval : Nat)
    (callback : FunctionHandle) (once : Bool) (now : Instant) :
    ¬ CreatesFresh (({} : TimerTable).performAll
      (List.replicate count (.create interval callback once now))) interval callback once now := by
  have hgreatest : UInt32.ofNat (UInt32.size - 1) ∈ (({} : TimerTable).performAll
      (List.replicate count (.create interval callback once now))).ids := by
    -- nothing is removed, so the greatest id stays once it has been given
    induction h with
    | refl =>
      have hcount : UInt32.size - 1 = (UInt32.size - 2) + 1 := rfl
      rw [hcount, List.replicate_succ', performAll_concat]
      refine mem_ids_create.mpr (Or.inl ?_)
      rw [nextId_performAll, creations_replicate]
    | step _ ih =>
      rw [List.replicate_succ', performAll_concat]
      exact mem_ids_create.mpr (Or.inr ih)
  intro hfresh
  have hlt := (createsFresh_iff_lt (wellFormed_performAll _)).mp hfresh _ hgreatest
  rw [UInt32.lt_iff_toNat_lt] at hlt
  have hnext := UInt32.toNat_lt (({} : TimerTable).performAll
    (List.replicate count (.create interval callback once now))).nextId
  have hlast : (UInt32.ofNat (UInt32.size - 1)).toNat = 2 ^ 32 - 1 := rfl
  omega

/-- The ids that a number of creations give, in this order. -/
def numbers (count : Nat) : List UInt32 :=
  (List.range count).map fun n => UInt32.ofNat (n + 1)

theorem numbers_succ (count : Nat) :
    numbers (count + 1) = numbers count ++ [UInt32.ofNat (count + 1)] := by
  rw [numbers, List.range_succ, List.map_append]
  rfl

/-- The ids are listed in the order of creation until all but one of them have been given out. -/
theorem ids_sublist_numbers {history : List TimerOperation} (h : creations history < UInt32.size) :
    (({} : TimerTable).performAll history).ids.Sublist (numbers (creations history)) := by
  induction history using List.reverseRecOn with
  | nil => exact List.nil_sublist _
  | append_singleton history operation ih =>
    rw [performAll_concat]
    rw [TimerOperation.creations_concat] at h ⊢
    have hbefore := ih (Nat.lt_of_le_of_lt (Nat.le_add_right _ _) h)
    cases hop : operation.isCreate with
    | false => exact (ids_perform_sublist (wellFormed_performAll history) hop).trans hbefore
    | true =>
      rw [hop] at h
      cases operation with
      | create interval callback once now =>
        have hroom : creations history < UInt32.size - 1 := Nat.lt_sub_of_add_lt h
        have hfresh : CreatesFresh (({} : TimerTable).performAll history) interval callback once
            now := createsFresh_of_lt fun _ => (numbered_performAll hroom).lt_nextId
        rw [perform, hfresh.ids_eq, if_pos rfl, numbers_succ, ← nextId_performAll]
        exact hbefore.append (List.Sublist.refl _)
      | remove | flush | poll | clear => cases hop

/-- Whatever has been done to a table, a creation spares the other timers and keeps the order of
the ids exactly if all ids in use come before the next one.  So do the first 2³² - 1 creations,
whatever is done between them, and of no later one can this be said. -/
theorem create_fresh_iff (interval : Nat) (callback : FunctionHandle) (once : Bool)
    (now : Instant) :
    (∀ history, CreatesFresh (({} : TimerTable).performAll history) interval callback once now ↔
      ∀ id ∈ (({} : TimerTable).performAll history).ids,
        id < (({} : TimerTable).performAll history).nextId) ∧
    (∀ count, (∀ history, creations history = count →
        CreatesFresh (({} : TimerTable).performAll history) interval callback once now) ↔
      count < UInt32.size - 1) ∧
    ∀ history, creations history < UInt32.size →
      (({} : TimerTable).performAll history).ids.Sublist (numbers (creations history)) := by
  refine ⟨fun history => createsFresh_iff_lt (wellFormed_performAll history), ?_,
    fun history => ids_sublist_numbers⟩
  intro count
  constructor
  · intro hall
    apply Nat.lt_of_not_le
    intro hle
    exact not_createsFresh_replicate hle interval callback once now
      (hall _ (creations_replicate count interval callback once now))
  · rintro hcount history rfl
    exact createsFresh_of_lt fun _ => (numbered_performAll hcount).lt_nextId

/-- A timer that has been removed leaves its id unused, and the third creation gives another. -/
theorem create_fresh_third :
    let history : List TimerOperation :=
      [.create 0 ⟨"greet", "void greet()"⟩ true ⟨0⟩, .create 5 ⟨"watch", "void watch()"⟩ false ⟨0⟩,
        .remove 1, .flush]
    creations history = 2 ∧
      CreatesFresh (({} : TimerTable).performAll history) 5 ⟨"greet", "void greet()"⟩ true ⟨3⟩ ∧
      (({} : TimerTable).performAll history).ids = [2] ∧
      (({} : TimerTable).performAll history).ids.Sublist (numbers 2) := by
  intro history
  have hcreations : creations history = 2 := by decide
  obtain ⟨-, hall, hordered⟩ := create_fresh_iff 5 ⟨"greet", "void greet()"⟩ true ⟨3⟩
  refine ⟨hcreations, ?_, by decide, ?_⟩
  · exact (hall 2).mpr (by decide) history hcreations
  · rw [← hcreations]
    exact hordered history (by rw [hcreations]; decide)

/-! ## What happens then -/

/-- Timers that are created and removed one after the other, so that there is never more than
one of them. -/
def churn (count : Nat) : List TimerOperation :=
  (List.range count).flatMap fun n =>
    [.create 0 ⟨"greet", "void greet()"⟩ true ⟨0⟩, .remove (UInt32.ofNat (n + 2)), .flush]

theorem creations_churn (count : Nat) : creations (churn count) = count := by
  induction count with
  | zero => rfl
  | succ count ih =>
    rw [churn, List.range_succ, List.flatMap_append, ← churn, creations, List.countP_append,
      ← creations, ih]
    rfl

/-- The first timer waits while others come and go, until it is its turn to be given out again. -/
theorem waiting_churn {count : Nat} (h : count < UInt32.size) (interval : Nat)
    (callback : FunctionHandle) (once : Bool) (now : Instant) :
    Waiting 1 interval callback once now
      (({} : TimerTable).performAll (.create interval callback once now :: churn count)) := by
  have hsize : UInt32.size = 4294967296 := rfl
  have hroom := @roomBefore_created {} interval callback once now
  have hcreated : Waiting 1 interval callback once now
      (({} : TimerTable).create interval callback once now).2.2 := @waiting_create {} _ _ _ _ rfl
  show Waiting 1 interval callback once now
    ((({} : TimerTable).create interval callback once now).2.2.performAll (churn count))
  -- between its creation and the next time that 1 is given, nothing touches the timer
  refine runs_keep 1 ?_ ?_ hcreated
  · rw [creations_churn]
    exact Nat.le_trans (Nat.le_sub_one_of_lt h) (Nat.le_of_eq hroom.symm)
  · intro before operation hmem hbefore hnext
    obtain ⟨n, hn, hoperation⟩ := List.mem_flatMap.mp hmem
    have hlt : n < count := List.mem_range.mp hn
    have hother : UInt32.ofNat (n + 2) ≠ 1 := by
      intro heq
      have hmod : (n + 2) % UInt32.size = 1 := congrArg UInt32.toNat heq
      rw [hsize] at hmod h
      omega
    simp only [List.mem_cons, List.not_mem_nil, or_false] at hoperation
    rcases hoperation with rfl | rfl | rfl
    · exact hbefore.perform hnext (by simp) (by simp) (by simp)
    · exact hbefore.perform hnext (by simpa using hother) (by simp) (by simp)
    · exact hbefore.perform hnext (by simp) (by simp) (by simp)

/-- If the next id is in use, the new timer takes the place of the one that has it, and the callback
of that one is given back. -/
theorem create_of_used {old : Timer} (h : table.find? table.nextId = some old) :
    (table.create interval callback once now).2.1 = some old.callback ∧
      (table.create interval callback once now).2.2.find? table.nextId
        = some ⟨callback, interval, now, once⟩ ∧
      ¬ CreatesFresh table interval callback once now := by
  refine ⟨?_, ?_, ?_⟩
  · show (table.find? table.nextId).map (·.callback) = some old.callback
    rw [h]
    rfl
  · exact (Keyed.find?_insert _ _ _ _).trans (if_pos rfl)
  · intro hfresh
    have hfree : (table.find? table.nextId).isSome = false := hfresh.not_contains
    rw [h] at hfree
    cases hfree

/-- A timer that waits while 2³² - 1 others come and go loses its place to the one after them. -/
theorem create_overwrites :
    let watch : FunctionHandle := ⟨"watch", "void watch()"⟩
    let greet : FunctionHandle := ⟨"greet", "void greet()"⟩
    let table := ({} : TimerTable).performAll
      (.create 5 watch false ⟨0⟩ :: churn (UInt32.size - 1))
    table.find? 1 = some ⟨watch, 5, ⟨0⟩, false⟩ ∧ table.nextId = 1 ∧
      (table.create 7 greet true ⟨0⟩).2.1 = some watch ∧
      (table.create 7 greet true ⟨0⟩).2.2.find? 1 = some ⟨greet, 7, ⟨0⟩, true⟩ ∧
      ¬ CreatesFresh table 7 greet true ⟨0⟩ := by
  intro watch greet table
  have hwaiting : Waiting 1 5 watch false ⟨0⟩ table := waiting_churn (by decide) 5 watch false ⟨0⟩
  have hnext : table.nextId = 1 := by
    have hcreations : creations (.create 5 watch false ⟨0⟩ :: churn (UInt32.size - 1))
        = UInt32.size - 1 + 1 := by
      rw [TimerOperation.creations_cons, creations_churn]
      rfl
    rw [nextId_performAll, hcreations]
    rfl
  have hfind : table.find? 1 = some ⟨watch, 5, ⟨0⟩, false⟩ := by
    obtain ⟨lastRun, hfound, rfl | hzero⟩ := hwaiting.found
    · exact hfound
    · cases hzero
  clear_value table
  obtain ⟨hdisplaced, hcreated, hnot⟩ :=
    @create_of_used table 7 greet true ⟨0⟩ _ (hnext ▸ hfind)
  rw [hnext] at hcreated
  exact ⟨hfind, hnext, hdisplaced, hcreated, hnot⟩

end ScriptHost.TimerTable
