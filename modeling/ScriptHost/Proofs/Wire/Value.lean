import ScriptHost.Proofs.Keyed
import ScriptHost.Proofs.Wire.Field
import ScriptHost.Wire.Value

/-!
# Values read back

Reading what was written of a value gives the value (`ofJson?_toJson`), as long as its floats are
finite and its dictionaries are in order.  What is read from any tree has its dictionaries in order
(`ordered_of_ofJson?`), however the entries stood there.
-/

namespace ScriptHost

/-! ## Entries in order -/

namespace Keyed

variable {κ α : Type} [DecidableEq κ]

/-- A key greater than all others is put at the end. -/
theorem insert_last [LE κ] [LT κ] [DecidableLT κ] [Std.IsPreorder κ] [Std.LawfulOrderLT κ] (key : κ)
    (value : α) {entries : List (κ × α)} (h : ∀ k ∈ entries.map (·.1), k < key) :
    insert key value entries = entries ++ [(key, value)] := by
  induction entries with
  | nil => rfl
  | cons entry rest ih =>
    rcases entry with ⟨k, v⟩
    have hk : k < key := h k List.mem_cons_self
    have hrest := ih fun other hother => h other (List.mem_cons_of_mem _ hother)
    rw [insert, if_neg (Std.not_gt_of_lt hk), if_neg (Std.ne_of_lt hk), hrest, List.cons_append]

theorem ascending_foldl_insert [LE κ] [LT κ] [DecidableLT κ] [Std.IsLinearOrder κ]
    [Std.LawfulOrderLT κ] (entries : List (κ × α)) {sorted : List (κ × α)}
    (h : Ascending sorted) :
    Ascending (entries.foldl (fun sorted e => insert e.1 e.2 sorted) sorted) := by
  induction entries generalizing sorted with
  | nil => exact h
  | cons entry rest ih => exact ih (ascending_insert entry.1 entry.2 h)

theorem mem_foldl_insert [LT κ] [DecidableLT κ] {entries sorted : List (κ × α)} {e : κ × α}
    (h : e ∈ entries.foldl (fun sorted e => insert e.1 e.2 sorted) sorted) :
    e ∈ sorted ∨ e ∈ entries := by
  induction entries generalizing sorted with
  | nil => exact .inl h
  | cons entry rest ih =>
    rcases ih h with hsorted | hrest
    · rcases mem_insert hsorted with rfl | hold
      · exact .inr List.mem_cons_self
      · exact .inl hold
    · exact .inr (List.mem_cons_of_mem _ hrest)

/-- Entries that follow in order are put at the end one after the other. -/
theorem foldl_insert_ascending [LE κ] [LT κ] [DecidableLT κ] [Std.IsPreorder κ]
    [Std.LawfulOrderLT κ] {entries sorted : List (κ × α)} (h : Ascending (sorted ++ entries)) :
    entries.foldl (fun sorted e => insert e.1 e.2 sorted) sorted = sorted ++ entries := by
  induction entries generalizing sorted with
  | nil => rw [List.foldl_nil, List.append_nil]
  | cons entry rest ih =>
    have hlast : insert entry.1 entry.2 sorted = sorted ++ [entry] := by
      apply insert_last
      intro k hk
      unfold Ascending at h
      rw [List.map_append] at h
      exact (List.pairwise_append.mp h).2.2 k hk entry.1 List.mem_cons_self
    have hrest : Ascending ((sorted ++ [entry]) ++ rest) := by
      rw [List.append_assoc]
      exact h
    rw [List.foldl_cons, hlast, ih hrest, List.append_assoc]
    rfl

end Keyed

namespace Value

theorem insertEntry_eq (key : String) (value : Value) (entries : List (String × Value)) :
    insertEntry key value entries = Keyed.insert key value entries := by
  induction entries with
  | nil => rfl
  | cons entry rest ih => rw [insertEntry, Keyed.insert, ih]

theorem sortEntries_eq (entries : List (String × Value)) :
    sortEntries entries = entries.foldl (fun sorted e => Keyed.insert e.1 e.2 sorted) [] := by
  unfold sortEntries
  congr 1
  funext sorted e
  exact insertEntry_eq e.1 e.2 sorted

theorem ascending_sortEntries (entries : List (String × Value)) :
    Keyed.Ascending (sortEntries entries) := by
  rw [sortEntries_eq]
  exact Keyed.ascending_foldl_insert entries List.Pairwise.nil

theorem mem_sortEntries {entries : List (String × Value)} {e : String × Value}
    (h : e ∈ sortEntries entries) : e ∈ entries := by
  rw [sortEntries_eq] at h
  exact (Keyed.mem_foldl_insert h).resolve_left List.not_mem_nil

/-- Entries in order stay as they are. -/
theorem sortEntries_eq_self {entries : List (String × Value)} (h : Keyed.Ascending entries) :
    sortEntries entries = entries := by
  rw [sortEntries_eq]
  exact Keyed.foldl_insert_ascending h

/-! ## Finite and ordered values -/

mutual

/-- Every float in the value is finite. -/
def Finite : Value → Prop
  | .double x => x.isFinite = true
  | .vector3 v => v.Finite
  | .list items => FiniteList items
  | .dict entries => FiniteEntries entries
  | _ => True

/-- Every float in the items is finite. -/
def FiniteList : List Value → Prop
  | [] => True
  | item :: rest => item.Finite ∧ FiniteList rest

/-- Every float in the entries is finite. -/
def FiniteEntries : List (String × Value) → Prop
  | [] => True
  | (_, value) :: rest => value.Finite ∧ FiniteEntries rest

end

mutual

/-- Every dictionary in the value has its entries by ascending key, each key once. -/
def Ordered : Value → Prop
  | .list items => OrderedList items
  | .dict entries => Keyed.Ascending entries ∧ OrderedEntries entries
  | _ => True

def OrderedList : List Value → Prop
  | [] => True
  | item :: rest => item.Ordered ∧ OrderedList rest

/-- The values of the entries are ordered; their keys need not be. -/
def OrderedEntries : List (String × Value) → Prop
  | [] => True
  | (_, value) :: rest => value.Ordered ∧ OrderedEntries rest

end

theorem finiteList_iff {items : List Value} : FiniteList items ↔ ∀ v ∈ items, v.Finite := by
  induction items with
  | nil => simp [FiniteList]
  | cons item rest ih => rw [FiniteList, ih, List.forall_mem_cons]

theorem orderedList_iff {items : List Value} : OrderedList items ↔ ∀ v ∈ items, v.Ordered := by
  induction items with
  | nil => simp [OrderedList]
  | cons item rest ih => rw [OrderedList, ih, List.forall_mem_cons]

theorem orderedEntries_iff {entries : List (String × Value)} :
    OrderedEntries entries ↔ ∀ e ∈ entries, e.2.Ordered := by
  induction entries with
  | nil => simp [OrderedEntries]
  | cons entry rest ih => rw [OrderedEntries, ih, List.forall_mem_cons]

/-! ## Reading what was written -/

open Wire

mutual

/-- A value is read as what it was when it was written. -/
theorem ofJson?_toJson : ∀ v : Value, v.Ordered → v.Finite → ofJson? v.toJson = some v
  | .none, _, _ => rfl
  | .bool b, _, _ => by simp [toJson, ofJson?, leafOfJson?, readBool?]
  | .int n, _, _ => by simp [toJson, ofJson?, leafOfJson?]
  | .uint n, _, _ => by simp [toJson, ofJson?, leafOfJson?]
  | .double x, _, hfinite => by
    have hx : x.isFinite = true := hfinite
    simp [toJson, ofJson?, leafOfJson?, writeBinary64, readBinary64?, hx]
  | .string s, _, _ => by simp [toJson, ofJson?, leafOfJson?, readString?]
  | .list items, hordered, hfinite => by
    have hitems := listOfJson?_toJson items hordered hfinite
    rw [toJson, ofJson?, if_pos rfl, hitems, Option.map_some]
  | .dict entries, hordered, hfinite => by
    have hentries := entriesOfJson?_toJson entries hordered.2 hfinite
    rw [toJson, ofJson?, if_pos rfl, hentries, Option.map_some, sortEntries_eq_self hordered.1]
  | .entity e, _, _ => by
    have hread := Entity.ofJson?_toJson e
    rw [Entity.toJson] at hread
    rw [toJson, Entity.toJson, ofJson?, if_neg (by decide)]
    simp [leafOfJson?, hread]
  | .vector3 v, _, hfinite => by
    have hread := Vector3.ofJson?_toJson hfinite
    rw [Vector3.toJson] at hread
    rw [toJson, Vector3.toJson, ofJson?, if_neg (by decide)]
    simp [leafOfJson?, hread]

theorem listOfJson?_toJson : ∀ items : List Value, OrderedList items → FiniteList items →
    listOfJson? (listToJson items) = some items
  | [], _, _ => rfl
  | item :: rest, hordered, hfinite => by
    have hitem := ofJson?_toJson item hordered.1 hfinite.1
    have hrest := listOfJson?_toJson rest hordered.2 hfinite.2
    simp [listToJson, listOfJson?, hitem, hrest]

theorem entriesOfJson?_toJson : ∀ entries : List (String × Value), OrderedEntries entries →
    FiniteEntries entries → entriesOfJson? (entriesToJson entries) = some entries
  | [], _, _ => rfl
  | (key, value) :: rest, hordered, hfinite => by
    have hvalue := ofJson?_toJson value hordered.1 hfinite.1
    have hrest := entriesOfJson?_toJson rest hordered.2 hfinite.2
    simp [entriesToJson, entriesOfJson?, hvalue, hrest]

end

/-! ## Whatever is read is in order -/

theorem ordered_of_leafOfJson? {kind : String} {content : Json} {v : Value}
    (h : leafOfJson? kind content = some v) : v.Ordered := by
  unfold leafOfJson? at h
  split at h
  case h_1 =>
    split at h
    · cases h
      trivial
    · cases h
  case h_9 => cases h
  all_goals
    obtain ⟨content', -, rfl⟩ := Option.map_eq_some_iff.mp h
    trivial

theorem ofJson?_leaf (kind : String) {content : Json} (harr : ∀ items, content ≠ .arr items)
    (hobj : ∀ members, content ≠ .obj members) :
    ofJson? (.obj [(kind, content)]) = leafOfJson? kind content := by
  cases content with
  | arr items => exact absurd rfl (harr items)
  | obj members => exact absurd rfl (hobj members)
  | null | bool | int | real | str => rw [ofJson?] <;> exact nofun

theorem ordered_of_leaf {kind : String} {content : Json} {v : Value}
    (h : ofJson? (.obj [(kind, content)]) = some v) (harr : ∀ items, content ≠ .arr items)
    (hobj : ∀ members, content ≠ .obj members) : v.Ordered :=
  ordered_of_leafOfJson? ((ofJson?_leaf kind harr hobj).symm.trans h)

/-- An object with several members is no value. -/
theorem ofJson?_several (first second : String × Json) (rest : List (String × Json)) :
    ofJson? (.obj (first :: second :: rest)) = Option.none := by
  rw [ofJson?] <;> simp

mutual

/-- What is read has its dictionaries in order. -/
theorem ordered_of_ofJson? : ∀ (json : Json) {v : Value}, ofJson? json = some v → v.Ordered
  | .str kind, v, h => by
    rw [ofJson?] at h
    split at h
    · cases h
      trivial
    · cases h
  | .obj [(kind, .arr items)], v, h => by
    rw [ofJson?] at h
    split at h
    · obtain ⟨values, hitems, rfl⟩ := Option.map_eq_some_iff.mp h
      exact ordered_of_listOfJson? items hitems
    · exact ordered_of_leafOfJson? h
  | .obj [(kind, .obj members)], v, h => by
    rw [ofJson?] at h
    split at h
    · obtain ⟨entries, hentries, rfl⟩ := Option.map_eq_some_iff.mp h
      have hordered := orderedEntries_iff.mp (ordered_of_entriesOfJson? members hentries)
      exact ⟨ascending_sortEntries entries,
        orderedEntries_iff.mpr fun e he => hordered e (mem_sortEntries he)⟩
    · exact ordered_of_leafOfJson? h
  | .obj [(kind, .null)], v, h => ordered_of_leaf h nofun nofun
  | .obj [(kind, .bool b)], v, h => ordered_of_leaf h nofun nofun
  | .obj [(kind, .int n)], v, h => ordered_of_leaf h nofun nofun
  | .obj [(kind, .real x)], v, h => ordered_of_leaf h nofun nofun
  | .obj [(kind, .str s)], v, h => ordered_of_leaf h nofun nofun
  | .null, v, h => nomatch h
  | .bool _, v, h => nomatch h
  | .int _, v, h => nomatch h
  | .real _, v, h => nomatch h
  | .arr _, v, h => nomatch h
  | .obj [], v, h => nomatch h
  | .obj (first :: second :: rest), v, h => by
    rw [ofJson?_several] at h
    cases h

theorem ordered_of_listOfJson? : ∀ (items : List Json) {values : List Value},
    listOfJson? items = some values → OrderedList values
  | [], values, h => by
    cases h
    trivial
  | item :: rest, values, h => by
    simp only [listOfJson?, Option.bind_eq_bind, Option.bind_eq_some_iff, Option.pure_def] at h
    obtain ⟨value, hitem, values', hrest, heq⟩ := h
    cases heq
    exact ⟨ordered_of_ofJson? item hitem, ordered_of_listOfJson? rest hrest⟩

theorem ordered_of_entriesOfJson? : ∀ (members : List (String × Json))
    {entries : List (String × Value)},
    entriesOfJson? members = some entries → OrderedEntries entries
  | [], entries, h => by
    cases h
    trivial
  | (key, json) :: rest, entries, h => by
    simp only [entriesOfJson?, Option.bind_eq_bind, Option.bind_eq_some_iff, Option.pure_def] at h
    obtain ⟨value, hvalue, entries', hrest, heq⟩ := h
    cases heq
    exact ⟨ordered_of_ofJson? json hvalue, ordered_of_entriesOfJson? rest hrest⟩

end

end Value

end ScriptHost
