import Mathlib.Data.List.Nodup
import Mathlib.Data.List.Perm.Basic
import ScriptHost.Keyed

/-!
# Lists by key: what a change leaves in place

`find?_insert` says what is found after an insertion.  The permutations say that an insertion into
an ascending list, and the removal of a set of keys, lose and double nothing, so that whatever is
counted over the entries can be counted before and after.
-/

namespace ScriptHost.Keyed

variable {κ α : Type} [DecidableEq κ]

/-- The keys of a table are in strictly ascending order. -/
def Ascending [LT κ] (entries : List (κ × α)) : Prop :=
  (entries.map (·.1)).Pairwise (· < ·)

/-! ## Finding -/

@[simp] theorem find?_nil (key : κ) : find? key ([] : List (κ × α)) = none := rfl

theorem find?_cons (key : κ) (entry : κ × α) (rest : List (κ × α)) :
    find? key (entry :: rest) = if entry.1 = key then some entry.2 else find? key rest := by
  by_cases h : entry.1 = key <;> simp [find?, h]

/-- An insertion changes what is found under its own key only. -/
theorem find?_insert [LT κ] [DecidableLT κ] (key other : κ) (value : α)
    (entries : List (κ × α)) :
    find? other (insert key value entries)
      = if key = other then some value else find? other entries := by
  induction entries with
  | nil => rw [insert, find?_cons]
  | cons entry rest ih =>
    rcases entry with ⟨k, v⟩
    rw [insert]
    split
    · rw [find?_cons]
    · split
      · next hk =>
        rw [find?_cons, find?_cons, hk]
        split <;> rfl
      · next hk =>
        rw [find?_cons, find?_cons, ih]
        by_cases h : key = other
        · have hne : k ≠ other := fun e => hk (e.trans h.symm)
          simp [h, hne]
        · simp [h]

theorem mem_of_find? {key : κ} {value : α} {entries : List (κ × α)}
    (h : find? key entries = some value) : (key, value) ∈ entries := by
  induction entries with
  | nil => cases h
  | cons entry rest ih =>
    rw [find?_cons] at h
    split at h
    · next hk =>
      rw [← hk, ← Option.some.inj h]
      exact List.mem_cons_self
    · exact List.mem_cons_of_mem _ (ih h)

theorem find?_eq_none {key : κ} {entries : List (κ × α)} :
    find? key entries = none ↔ key ∉ entries.map (·.1) := by
  induction entries with
  | nil => simp
  | cons entry rest ih =>
    rw [find?_cons]
    by_cases h : entry.1 = key
    · simp [h]
    · have h' : key ≠ entry.1 := fun e => h e.symm
      simp only [h, if_false, ih, List.map_cons, List.mem_cons, h', false_or]

theorem find?_eq_some_iff {key : κ} {value : α} {entries : List (κ × α)}
    (hd : (entries.map (·.1)).Nodup) :
    find? key entries = some value ↔ (key, value) ∈ entries := by
  refine ⟨mem_of_find?, fun hmem => ?_⟩
  induction entries with
  | nil => cases hmem
  | cons entry rest ih =>
    have hn := List.nodup_cons.mp hd
    rw [find?_cons]
    rcases List.mem_cons.mp hmem with rfl | hrest
    · exact if_pos rfl
    · have hkey : key ∈ rest.map (·.1) := List.mem_map_of_mem hrest
      have hne : entry.1 ≠ key := ne_of_mem_of_not_mem hkey hn.1 |>.symm
      rw [if_neg hne, ih hn.2 hrest]

/-- What is found under the keys is the values, in their order. -/
theorem map_find?_keys {entries : List (κ × α)} (hd : (entries.map (·.1)).Nodup) :
    (entries.map (·.1)).map (fun key => find? key entries) = entries.map fun e => some e.2 := by
  rw [List.map_map]
  exact List.map_congr_left fun e he => (find?_eq_some_iff hd).mpr he

/-! ## Ascending keys -/

theorem mem_keys_insert [LT κ] [DecidableLT κ] {key other : κ} {value : α}
    {entries : List (κ × α)} :
    other ∈ (insert key value entries).map (·.1)
      ↔ other = key ∨ other ∈ entries.map (·.1) := by
  rw [← not_iff_not, not_or, ← find?_eq_none, ← find?_eq_none, find?_insert]
  by_cases h : key = other
  · simp [h]
  · have h' : other ≠ key := fun e => h e.symm
    simp [h, h']

theorem mem_insert [LT κ] [DecidableLT κ] {key : κ} {value : α} {entries : List (κ × α)}
    {e : κ × α} (h : e ∈ insert key value entries) : e = (key, value) ∨ e ∈ entries := by
  induction entries with
  | nil => exact Or.inl (List.mem_singleton.mp h)
  | cons entry rest ih =>
    rcases entry with ⟨k, v⟩
    rw [insert] at h
    split at h
    · exact List.mem_cons.mp h
    · split at h
      · rcases List.mem_cons.mp h with rfl | h
        · exact Or.inl rfl
        · exact Or.inr (List.mem_cons_of_mem _ h)
      · rcases List.mem_cons.mp h with rfl | h
        · exact Or.inr List.mem_cons_self
        · exact (ih h).imp id (List.mem_cons_of_mem _)

omit [DecidableEq κ] in
theorem Ascending.filter [LT κ] {entries : List (κ × α)} (h : Ascending entries)
    (p : κ × α → Bool) : Ascending (entries.filter p) :=
  List.Pairwise.sublist (List.filter_sublist.map _) h

omit [DecidableEq κ] in
theorem Ascending.nodup [LE κ] [LT κ] [Std.IsPreorder κ] [Std.LawfulOrderLT κ]
    {entries : List (κ × α)} (h : Ascending entries) : (entries.map (·.1)).Nodup :=
  List.Pairwise.imp (fun hlt => Std.ne_of_lt hlt) h

/-- A table is told by what is found in it. -/
theorem Ascending.eq_of_find?_eq [LE κ] [LT κ] [Std.IsPreorder κ] [Std.LawfulOrderLT κ]
    {entries entries' : List (κ × α)} (h : Ascending entries) (h' : Ascending entries')
    (hfind : ∀ key, find? key entries = find? key entries') : entries = entries' := by
  have hmem : ∀ e, e ∈ entries ↔ e ∈ entries' := by
    rintro ⟨key, value⟩
    rw [← find?_eq_some_iff h.nodup, hfind, find?_eq_some_iff h'.nodup]
  have hperm : entries.Perm entries' :=
    (List.perm_ext_iff_of_nodup (List.Nodup.of_map _ h.nodup) (List.Nodup.of_map _ h'.nodup)).mpr
      hmem
  refine hperm.eq_of_pairwise ?_ (List.pairwise_map.mp h) (List.pairwise_map.mp h')
  intro e e' _ _ hlt hlt'
  exact absurd hlt' (Std.not_gt_of_lt hlt)

section Order

variable [LE κ] [LT κ] [DecidableLT κ] [Std.LawfulOrderLT κ]

theorem ascending_insert [Std.IsLinearOrder κ] (key : κ) (value : α) {entries : List (κ × α)}
    (h : Ascending entries) : Ascending (insert key value entries) := by
  induction entries with
  | nil => exact List.pairwise_singleton _ _
  | cons entry rest ih =>
    rcases entry with ⟨k, v⟩
    have hp := List.pairwise_cons.mp h
    rw [insert]
    split
    · next hlt =>
      refine List.pairwise_cons.mpr ⟨?_, h⟩
      intro other hother
      rcases List.mem_cons.mp hother with rfl | hrest
      · exact hlt
      · exact Std.lt_trans hlt (hp.1 other hrest)
    · next hnlt =>
      split
      · next hk =>
        rw [hk] at hp
        exact List.pairwise_cons.mpr hp
      · next hk =>
        refine List.pairwise_cons.mpr ⟨?_, ih hp.2⟩
        intro other hother
        rcases mem_keys_insert.mp hother with rfl | hrest
        · rcases Std.lt_trichotomy k other with hlt | heq | hgt
          · exact hlt
          · exact absurd heq hk
          · exact absurd hgt hnlt
        · exact hp.1 other hrest

/-- A new value under a key that is there leaves the keys as they are. -/
theorem keys_insert_of_mem [Std.IsPreorder κ] {key : κ} (value : α) {entries : List (κ × α)}
    (h : Ascending entries) (hmem : key ∈ entries.map (·.1)) :
    (insert key value entries).map (·.1) = entries.map (·.1) := by
  induction entries with
  | nil => cases hmem
  | cons entry rest ih =>
    rcases entry with ⟨k, v⟩
    have hp := List.pairwise_cons.mp h
    rw [insert]
    split
    · next hlt =>
      -- all keys are greater than one that is less than the first
      rcases List.mem_cons.mp hmem with heq | hrest
      · exact absurd (heq ▸ hlt) Std.lt_irrefl
      · exact absurd (Std.lt_trans hlt (hp.1 key hrest)) Std.lt_irrefl
    · split
      · next hk => rw [hk]; rfl
      · next hk =>
        have hrest : key ∈ rest.map (·.1) :=
          (List.mem_cons.mp hmem).resolve_left fun e => hk e.symm
        rw [List.map_cons, ih hp.2 hrest, List.map_cons]

/-- A key that is greater than all others goes to the end. -/
theorem insert_eq_append [Std.IsPreorder κ] {key : κ} (value : α) {entries : List (κ × α)}
    (h : ∀ k ∈ entries.map (·.1), k < key) :
    insert key value entries = entries ++ [(key, value)] := by
  induction entries with
  | nil => rfl
  | cons entry rest ih =>
    rcases entry with ⟨k, v⟩
    have hlt : k < key := h k List.mem_cons_self
    rw [insert, if_neg (Std.not_gt_of_lt hlt), if_neg (Std.ne_of_lt hlt),
      ih fun k hk => h k (List.mem_cons_of_mem _ hk)]
    rfl

/-- Other entries stay, and the new one is there once. -/
theorem insert_perm [Std.IsPreorder κ] (key : κ) (value : α) {entries : List (κ × α)}
    (h : Ascending entries) :
    (insert key value entries).Perm ((key, value) :: entries.filter (·.1 ≠ key)) := by
  induction entries with
  | nil => exact List.Perm.refl _
  | cons entry rest ih =>
    rcases entry with ⟨k, v⟩
    have hp := List.pairwise_cons.mp h
    -- no key after one that is not less than `key` is `key`
    have hrest : ¬ k < key → rest.filter (·.1 ≠ key) = rest := by
      intro hnlt
      apply List.filter_eq_self.mpr
      intro e he
      have hlt := hp.1 e.1 (List.mem_map_of_mem he)
      have hne : e.1 ≠ key := fun heq => hnlt (heq ▸ hlt)
      simpa using hne
    rw [insert]
    split
    · next hlt =>
      have hk : k ≠ key := fun e => Std.ne_of_lt hlt e.symm
      rw [List.filter_cons_of_pos (by simpa using hk), hrest (Std.not_gt_of_lt hlt)]
    · split
      · next hk =>
        have hnlt : ¬ k < key := by
          rw [hk]
          exact Std.lt_irrefl
        rw [List.filter_cons_of_neg (by simpa using hk), hrest hnlt]
      · next hk =>
        rw [List.filter_cons_of_pos (by simpa using hk)]
        exact ((ih hp.2).cons (k, v)).trans (List.Perm.swap _ _ _)

end Order

/-! ## Taking keys out -/

/-- Taking keys out hides the entries under these keys only. -/
theorem find?_filter_keys (keep : κ → Bool) (key : κ) (entries : List (κ × α)) :
    find? key (entries.filter fun e => keep e.1)
      = if keep key then find? key entries else none := by
  induction entries with
  | nil => simp
  | cons entry rest ih =>
    rw [List.filter_cons]
    cases hkeep : keep entry.1 with
    | true =>
      rw [if_pos rfl, find?_cons, find?_cons, ih]
      by_cases hk : entry.1 = key
      · simp [hk, hk ▸ hkeep]
      · simp [hk]
    | false =>
      rw [if_neg Bool.false_ne_true, find?_cons, ih]
      by_cases hk : entry.1 = key
      · simp [hk ▸ hkeep]
      · simp [hk]

theorem filter_ne_eq_self {key : κ} {entries : List (κ × α)} (h : find? key entries = none) :
    entries.filter (·.1 ≠ key) = entries := by
  apply List.filter_eq_self.mpr
  intro e he
  have hne : e.1 ≠ key := by
    intro heq
    exact find?_eq_none.mp h (heq ▸ List.mem_map_of_mem he)
  simpa using hne

theorem perm_cons_filter_ne {key : κ} {value : α} {entries : List (κ × α)}
    (hd : (entries.map (·.1)).Nodup) (h : find? key entries = some value) :
    entries.Perm ((key, value) :: entries.filter (·.1 ≠ key)) := by
  induction entries with
  | nil => cases h
  | cons entry rest ih =>
    rcases entry with ⟨k, v⟩
    have hn := List.nodup_cons.mp hd
    rw [find?_cons] at h
    by_cases hk : k = key
    · have hv : v = value := by simpa [hk] using h
      have hnone : find? key rest = none := find?_eq_none.mpr (hk ▸ hn.1)
      rw [List.filter_cons_of_neg (by simpa using hk), filter_ne_eq_self hnone, hk, hv]
    · have hrest : find? key rest = some value := by simpa [hk] using h
      rw [List.filter_cons_of_pos (by simpa using hk)]
      exact ((ih hn.2 hrest).cons (k, v)).trans (List.Perm.swap _ _ _)

/-- An insertion takes out what was under the key, and nothing else. -/
theorem insert_perm_cons [LE κ] [LT κ] [DecidableLT κ] [Std.IsPreorder κ] [Std.LawfulOrderLT κ]
    (key : κ) (value : α) {entries : List (κ × α)} (h : Ascending entries) :
    ((find? key entries).toList.map (key, ·) ++ insert key value entries).Perm
      ((key, value) :: entries) := by
  have hins := insert_perm key value h
  cases hfind : find? key entries with
  | none =>
    rw [filter_ne_eq_self hfind] at hins
    simpa using hins
  | some old =>
    have hold := perm_cons_filter_ne h.nodup hfind
    exact ((hins.cons (key, old)).trans (List.Perm.swap _ _ _)).trans (hold.symm.cons _)

/-- The values found under distinct keys are those of the entries with these keys, each once. -/
theorem filterMap_find?_perm {keys : List κ} (hkeys : keys.Nodup) {entries : List (κ × α)}
    (hd : (entries.map (·.1)).Nodup) :
    (keys.filterMap fun key => find? key entries).Perm
      ((entries.filter (·.1 ∈ keys)).map (·.2)) := by
  induction entries generalizing keys with
  | nil => simp
  | cons entry rest ih =>
    rcases entry with ⟨k, v⟩
    have hn := List.nodup_cons.mp hd
    have hfresh : k ∉ rest.map (·.1) := hn.1
    -- keys other than `k` are looked for in the rest
    have hother : ∀ ks : List κ, k ∉ ks →
        (ks.filterMap fun key => find? key ((k, v) :: rest))
          = ks.filterMap fun key => find? key rest := by
      intro ks hks
      apply List.filterMap_congr
      intro key hkey
      have hne : k ≠ key := fun e => hks (e ▸ hkey)
      rw [find?_cons, if_neg hne]
    by_cases hk : k ∈ keys
    · have hperm := List.perm_cons_erase hk
      have hk' : k ∉ keys.erase k := hkeys.not_mem_erase
      have hsame : rest.filter (·.1 ∈ keys) = rest.filter (·.1 ∈ keys.erase k) := by
        apply List.filter_congr
        intro e he
        have hne : e.1 ≠ k := fun heq => hfresh (heq ▸ List.mem_map_of_mem he)
        simp [List.mem_erase_of_ne hne]
      rw [List.filter_cons_of_pos (by simpa using hk), List.map_cons, hsame]
      refine (hperm.filterMap _).trans ?_
      rw [List.filterMap_cons, find?_cons, if_pos rfl, hother _ hk']
      exact (ih (hkeys.erase k) hn.2).cons v
    · rw [List.filter_cons_of_neg (by simpa using hk), hother _ hk]
      exact ih hkeys hn.2

/-- A key that is not taken out may as well be inserted afterwards. -/
theorem filter_keys_insert [LE κ] [LT κ] [DecidableLT κ] [Std.LawfulOrderLT κ]
    [Std.IsLinearOrder κ] (keep : κ → Bool) {key : κ} (hkeep : keep key = true) (value : α)
    {entries : List (κ × α)} (h : Ascending entries) :
    (insert key value entries).filter (fun e => keep e.1)
      = insert key value (entries.filter fun e => keep e.1) := by
  refine ((ascending_insert key value h).filter _).eq_of_find?_eq
    (ascending_insert key value (h.filter _)) ?_
  intro other
  rw [find?_filter_keys, find?_insert, find?_insert, find?_filter_keys]
  by_cases hother : key = other
  · rw [if_pos hother, if_pos hother, ← hother, if_pos hkeep]
  · rw [if_neg hother, if_neg hother]

/-! ## Sums -/

/-- The sum of a measure of the values. -/
def sumOf {κ : Type} (measure : α → Nat) (entries : List (κ × α)) : Nat :=
  entries.foldr (fun e sum => measure e.2 + sum) 0

omit [DecidableEq κ] in
theorem sumOf_cons (measure : α → Nat) (e : κ × α) (rest : List (κ × α)) :
    sumOf measure (e :: rest) = measure e.2 + sumOf measure rest := rfl

omit [DecidableEq κ] in
theorem sumOf_perm (measure : α → Nat) {entries entries' : List (κ × α)}
    (h : entries.Perm entries') : sumOf measure entries = sumOf measure entries' := by
  induction h with
  | nil => rfl
  | cons e _ ih => rw [sumOf_cons, sumOf_cons, ih]
  | swap e e' rest =>
    rw [sumOf_cons, sumOf_cons, sumOf_cons, sumOf_cons]
    omega
  | trans _ _ ih ih' => exact ih.trans ih'

end ScriptHost.Keyed
