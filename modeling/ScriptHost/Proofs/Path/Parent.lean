import Mathlib.Data.List.DropRight
import ScriptHost.Proofs.Path.Components

/-!
# The directory of a path

Dropping the last component of a path is done on the pieces of its text, together with the pieces
around it that stand for nothing.  `components_parent` says that nothing else is dropped: the
directory of a path has all components of the path but the last.
-/

namespace ScriptHost.Path

/-! ## Pieces that stand for nothing -/

theorem componentOf?_eq_none_iff {piece : List Char} :
    componentOf? piece = none ↔ isFiller piece = true := by
  unfold componentOf?
  split
  · simp [isFiller]
  · simp [isFiller]
  · simp [isFiller]
  · next hempty hhere _ => simp_all [isFiller]

/-- Pieces that stand for nothing are dropped without a loss. -/
theorem filterMap_trimFillers (pieces : List (List Char)) :
    (trimFillers pieces).filterMap componentOf? = pieces.filterMap componentOf? := by
  induction pieces using List.reverseRecOn with
  | nil => rfl
  | append_singleton pieces piece ih =>
    have htrim : trimFillers (pieces ++ [piece])
        = if isFiller piece then trimFillers pieces else pieces ++ [piece] :=
      List.rdropWhile_concat isFiller pieces piece
    rw [htrim]
    split
    · next hfiller =>
      rw [ih, List.filterMap_append, List.filterMap_cons, componentOf?_eq_none_iff.mpr hfiller]
      exact (List.append_nil _).symm
    · rfl

/-- What is left after dropping ends with a piece that stands for something. -/
theorem trimFillers_eq_nil_or_concat (pieces : List (List Char)) :
    trimFillers pieces = [] ∨
      ∃ front piece c, trimFillers pieces = front ++ [piece] ∧ componentOf? piece = some c := by
  rcases List.eq_nil_or_concat (trimFillers pieces) with hnil | ⟨front, piece, hconcat⟩
  · exact Or.inl hnil
  · right
    have hne : trimFillers pieces ≠ [] := by
      rw [hconcat]
      simp
    have hlast : ¬ isFiller ((trimFillers pieces).getLast hne) = true :=
      List.rdropWhile_last_not isFiller pieces hne
    have hpiece : (trimFillers pieces).getLast hne = piece := by simp [hconcat]
    rw [hpiece, ← componentOf?_eq_none_iff] at hlast
    obtain ⟨c, hc⟩ := Option.ne_none_iff_exists'.mp hlast
    exact ⟨front, piece, c, by rw [hconcat, List.concat_eq_append], hc⟩

/-- What the first piece stands for does not depend on a slash after it, unless it is empty. -/
theorem leading_of_ne_nil {first : List Char} (h : first ≠ []) (more more' : Bool) :
    leading more first = leading more' first := by
  unfold leading
  split
  · exact absurd rfl h
  · rfl
  · rfl

theorem length_leading_le (more : Bool) (first : List Char) : (leading more first).length ≤ 1 := by
  unfold leading
  split
  · split <;> simp
  · simp
  · cases componentOf? first <;> simp

/-- Pieces joined by slashes are the pieces of the whole. -/
theorem split_intercalate {pieces : List (List Char)} (hne : pieces ≠ [])
    (h : ∀ piece ∈ pieces, '/' ∉ piece) :
    split (String.intercalate "/" (pieces.map String.ofList)).toList = pieces := by
  induction pieces with
  | nil => exact absurd rfl hne
  | cons piece rest ih =>
    have hpiece : split piece = [piece] := split_of_no_slash (h piece List.mem_cons_self)
    cases rest with
    | nil => simpa using hpiece
    | cons next rest =>
      have hrest := ih (List.cons_ne_nil _ _) fun p hp => h p (List.mem_cons_of_mem _ hp)
      rw [List.map_cons, List.map_cons, intercalate_cons_cons, split_append_slash,
        String.toList_ofList, hpiece, ← List.map_cons, hrest]
      rfl

/-! ## Components of the directory -/

/-- The components that pieces stand for. -/
def ofPieces : List (List Char) → List Component
  | [] => []
  | first :: rest => leading (!rest.isEmpty) first ++ rest.filterMap componentOf?

theorem components_eq_ofPieces (path : String) : components path = ofPieces (split path.toList) :=
  rfl

variable {first : List Char} {rest front : List (List Char)}

/-- Where only the first piece counts, it is the last component. -/
theorem dropLast_ofPieces_of_fillers (h : trimFillers rest = []) :
    (ofPieces (first :: rest)).dropLast = [] := by
  have hrest : rest.filterMap componentOf? = [] := by
    rw [← filterMap_trimFillers, h]
    rfl
  have hle := length_leading_le (!rest.isEmpty) first
  apply List.eq_nil_of_length_eq_zero
  rw [ofPieces, hrest, List.append_nil, List.length_dropLast]
  omega

/-- Elsewhere the last piece that counts is the last component. -/
theorem dropLast_ofPieces_of_concat {piece : List Char} {c : Component}
    (h : trimFillers rest = front ++ [piece]) (hpiece : componentOf? piece = some c) :
    (ofPieces (first :: rest)).dropLast
      = leading true first ++ (trimFillers front).filterMap componentOf? := by
  have hmore : rest.isEmpty = false := by
    rw [List.isEmpty_eq_false_iff]
    rintro rfl
    have hlength := congrArg List.length h
    simp [trimFillers] at hlength
  rw [ofPieces, ← filterMap_trimFillers rest, h, List.filterMap_append, List.filterMap_cons, hpiece,
    hmore, ← List.append_assoc, filterMap_trimFillers]
  exact List.dropLast_concat

theorem ofPieces_cons (h : ¬ (rest.isEmpty && first.isEmpty) = true) :
    ofPieces (first :: rest) = leading true first ++ rest.filterMap componentOf? := by
  rw [ofPieces]
  congr 1
  cases first with
  | nil =>
    have hrest : rest.isEmpty = false := by simpa using h
    rw [hrest]
    rfl
  | cons d ds => exact leading_of_ne_nil (List.cons_ne_nil d ds) _ _

/-- The directory of a path has all components of the path but the last; a path without a directory
has no more than one. -/
theorem components_parent (path : String) :
    components ((parent? path).getD "") = (components path).dropLast := by
  have hslash : ∀ piece ∈ split path.toList, '/' ∉ piece := fun _ => no_slash_of_mem_split
  rw [components_eq_ofPieces path]
  unfold parent?
  rcases hsplit : split path.toList with _ | ⟨first, rest⟩
  · exact absurd hsplit (split_ne_nil _)
  simp only
  -- the last piece that counts is the first of all, or one of the rest
  rcases trimFillers_eq_nil_or_concat rest with hnil | ⟨front, piece, c, hconcat, hpiece⟩
  · rw [dropLast_ofPieces_of_fillers hnil, hnil]
    simp only
    split <;> rfl
  · have hkept : ∀ p ∈ first :: trimFillers front, '/' ∉ p := by
      intro p hp
      rcases List.mem_cons.mp hp with rfl | hp
      · exact hslash p (hsplit ▸ List.mem_cons_self)
      · have hmem : p ∈ trimFillers rest := by
          rw [hconcat]
          exact List.mem_append_left _ ((List.rdropWhile_prefix isFiller front).subset hp)
        have hrest : p ∈ rest := (List.rdropWhile_prefix isFiller rest).subset hmem
        exact hslash p (hsplit ▸ List.mem_cons_of_mem _ hrest)
    have htext := split_intercalate (List.cons_ne_nil first (trimFillers front)) hkept
    rw [dropLast_ofPieces_of_concat hconcat hpiece, hconcat]
    split
    · next heq => exact absurd heq (by simp)
    · rw [List.dropLast_concat]
      split
      · next hroot =>
        -- nothing but the root is left
        rw [Bool.and_eq_true, List.isEmpty_iff, List.isEmpty_iff] at hroot
        rw [hroot.1, hroot.2]
        rfl
      · next hroot =>
        rw [Option.getD_some, components_eq_ofPieces, htext, ofPieces_cons hroot]

end ScriptHost.Path
