import Mathlib.Data.List.Count
import ScriptHost.Listing

/-!
# The lines of a listing

The text of a listing is a sequence of lines (`linesOf_render`): the first says when it was made, then
come the name and the sections that have entries, with an empty line between one and the next.  An
entry ends with a semicolon and a heading does not, so that no entry looks like a heading
(`headingLine_ne_entryLine`), whatever it says.
-/

namespace ScriptHost

namespace Listing

/-! ## Lines of a text -/

/-- The text fits on a line. -/
def IsLine (text : String) : Prop :=
  '\n' ∉ text.toList

instance (text : String) : Decidable (IsLine text) :=
  inferInstanceAs (Decidable ('\n' ∉ text.toList))

theorem IsLine.append {text more : String} (h : IsLine text) (hmore : IsLine more) :
    IsLine (text ++ more) := by
  rw [IsLine, String.toList_append, List.mem_append, not_or]
  exact ⟨h, hmore⟩

/-- The lines of a text, the last one being what follows the last newline. -/
def linesOf (text : String) : List String :=
  (text.toList.splitOn '\n').map String.ofList

/-- Lines with a newline after each. -/
def unlines (lines : List String) : String :=
  String.join (lines.map (· ++ "\n"))

theorem unlines_cons (line : String) (lines : List String) :
    unlines (line :: lines) = line ++ "\n" ++ unlines lines := by
  rw [← String.toList_inj]
  simp [unlines]

theorem unlines_append (lines more : List String) :
    unlines (lines ++ more) = unlines lines ++ unlines more := by
  rw [← String.toList_inj]
  simp [unlines]

/-- Blocks with an empty line between them. -/
theorem unlines_intercalate (blocks : List (List String)) :
    unlines ([""].intercalate blocks) = String.intercalate "\n" (blocks.map unlines) := by
  induction blocks with
  | nil => rfl
  | cons block rest ih =>
    cases rest with
    | nil => simp
    | cons next rest =>
      rw [List.intercalate_cons_cons, unlines_append, unlines_append, ih, ← String.toList_inj]
      simp [unlines]

/-- Between blocks there are empty lines and nothing else. -/
theorem filter_intercalate (blocks : List (List String)) :
    ([""].intercalate blocks).filter (· ≠ "") = blocks.flatten.filter (· ≠ "") := by
  induction blocks with
  | nil => rfl
  | cons block rest ih =>
    cases rest with
    | nil => simp
    | cons next rest =>
      rw [List.intercalate_cons_cons, List.filter_append, List.filter_append, ih, List.flatten_cons,
        List.filter_append]
      simp

theorem count_intercalate {line : String} (h : line ≠ "") (blocks : List (List String)) :
    ([""].intercalate blocks).count line = blocks.flatten.count line := by
  have hkept : ∀ lines : List String, (lines.filter (· ≠ "")).count line = lines.count line := by
    intro lines
    exact List.count_filter (by simpa using h)
  rw [← hkept, filter_intercalate, hkept]

theorem linesOf_line_append {line : String} (h : IsLine line) (text : String) :
    linesOf (line ++ "\n" ++ text) = line :: linesOf text := by
  have hline : ∀ c ∈ line.toList, (c == '\n') = false := by
    intro c hc
    rw [beq_eq_false_iff_ne]
    rintro rfl
    exact h hc
  have hlist : (line ++ "\n" ++ text).toList = line.toList ++ '\n' :: text.toList := by simp
  rw [linesOf, hlist, List.splitOn_eq_splitOnP,
    List.splitOnP_append_cons_of_forall_mem hline '\n' (by decide), List.map_cons,
    String.ofList_toList]
  rfl

theorem linesOf_unlines {lines : List String} (h : ∀ line ∈ lines, IsLine line) :
    linesOf (unlines lines) = lines ++ [""] := by
  induction lines with
  | nil => rfl
  | cons line rest ih =>
    rw [unlines_cons, linesOf_line_append (h line List.mem_cons_self),
      ih fun l hl => h l (List.mem_cons_of_mem _ hl), List.cons_append]

/-! ## Sections -/

/-- The sections of a listing. -/
inductive Part where
  | callbackTypes
  | functions
  | events
deriving DecidableEq, Repr

/-- The sections in their order. -/
def Part.all : List Part := [.callbackTypes, .functions, .events]

def Part.title : Part → String
  | callbackTypes => "Funcdefs"
  | functions => "Functions"
  | events => "Events"

/-- The entries of a section. -/
def entries (listing : Listing) : Part → List String
  | .callbackTypes => listing.callbackTypes
  | .functions => listing.functions
  | .events => listing.events

/-- The line above the entries of a section. -/
def headingLine (part : Part) : String :=
  indent ++ "// ********** " ++ part.title ++ " **********"

/-- The line of an entry. -/
def entryLine (entry : String) : String :=
  indent ++ entry ++ ";"

/-- The lines of a section, if it has entries. -/
def partLines? (listing : Listing) (part : Part) : Option (List String) :=
  if (listing.entries part).isEmpty then none
  else some (headingLine part :: (listing.entries part).map entryLine)

theorem getLast?_headingLine (part : Part) : (headingLine part).toList.getLast? = some '*' := by
  cases part <;> decide

theorem getLast?_entryLine (entry : String) : (entryLine entry).toList.getLast? = some ';' := by
  rw [entryLine, String.toList_append]
  exact List.getLast?_concat

theorem headingLine_ne_entryLine (part : Part) (entry : String) :
    headingLine part ≠ entryLine entry := by
  intro h
  have hlast := getLast?_headingLine part
  rw [h, getLast?_entryLine] at hlast
  exact absurd hlast (by decide)

theorem entryLine_injective : Function.Injective entryLine := by
  intro entry other h
  rw [entryLine, entryLine, ← String.toList_inj] at h
  rw [← String.toList_inj]
  simpa using h

theorem headingLine_injective : Function.Injective headingLine := by
  intro part other h
  cases part <;> cases other <;> first | rfl | exact absurd h (by decide)

/-- A line of a section is its heading or one of its entries. -/
theorem mem_partLines? {listing : Listing} {line : String}
    (h : line ∈ (Part.all.filterMap listing.partLines?).flatten) :
    ∃ part, line = headingLine part ∨ ∃ entry ∈ listing.entries part, line = entryLine entry := by
  obtain ⟨block, hblock, hline⟩ := List.mem_flatten.mp h
  obtain ⟨part, -, hpart⟩ := List.mem_filterMap.mp hblock
  refine ⟨part, ?_⟩
  rw [partLines?, Option.ite_none_left_eq_some, Option.some_inj] at hpart
  rw [← hpart.2, List.mem_cons, List.mem_map] at hline
  rcases hline with hheading | ⟨entry, hentry, heq⟩
  · exact Or.inl hheading
  · exact Or.inr ⟨entry, hentry, heq.symm⟩

/-- A section without entries has no lines. -/
theorem flatten_partLines (listing : Listing) (parts : List Part) :
    (parts.filterMap listing.partLines?).flatten
      = parts.flatMap fun part => (listing.partLines? part).getD [] := by
  induction parts with
  | nil => rfl
  | cons part rest ih =>
    rw [List.filterMap_cons, List.flatMap_cons, ← ih]
    cases listing.partLines? part <;> rfl

/-- In its section an entry has as many lines as there are of it. -/
theorem count_entryLine (listing : Listing) (part : Part) (entry : String) :
    ((listing.partLines? part).getD []).count (entryLine entry)
      = (listing.entries part).count entry := by
  unfold partLines?
  split
  · next hnone =>
    rw [List.isEmpty_iff.mp hnone]
    rfl
  · rw [Option.getD_some, List.count_cons_of_ne (headingLine_ne_entryLine part entry),
      List.count_map_of_injective _ _ entryLine_injective]

/-- A section has its own heading only, once, and none if it has no entries. -/
theorem count_headingLine (listing : Listing) (part other : Part) :
    ((listing.partLines? other).getD []).count (headingLine part)
      = if other = part ∧ listing.entries other ≠ [] then 1 else 0 := by
  have hentries : ((listing.entries other).map entryLine).count (headingLine part) = 0 := by
    apply List.count_eq_zero_of_not_mem
    intro hmem
    obtain ⟨entry, -, heq⟩ := List.mem_map.mp hmem
    exact headingLine_ne_entryLine part entry heq.symm
  unfold partLines?
  by_cases hnone : listing.entries other = []
  · simp [hnone]
  · have hsome : (listing.entries other).isEmpty = false := by simpa using hnone
    rw [hsome, if_neg Bool.false_ne_true, Option.getD_some, List.count_cons, hentries,
      Nat.zero_add]
    by_cases hpart : other = part
    · simp [hpart ▸ hnone, hpart]
    · have hheading : headingLine other ≠ headingLine part :=
        fun e => hpart (headingLine_injective e)
      simp [hpart, hheading]

/-! ## The text -/

/-- The lines of a listing but the first. -/
def bodyLines (listing : Listing) : List String :=
  ["", "namespace " ++ listing.namespaceName, "\x7b"]
    ++ [""].intercalate (Part.all.filterMap listing.partLines?) ++ ["\x7d"]

theorem renderSection?_eq (listing : Listing) (part : Part) :
    renderSection? part.title (listing.entries part) = (listing.partLines? part).map unlines := by
  unfold renderSection? partLines?
  split
  · rfl
  · rw [Option.map_some, Option.some_inj, unlines_cons, ← String.toList_inj]
    simp [headingLine, entryLine, unlines, List.flatMap_map]

theorem renderBody_eq_unlines (listing : Listing) :
    listing.renderBody = unlines listing.bodyLines := by
  have hbody : listing.renderBody = "\nnamespace " ++ listing.namespaceName ++ "\n\x7b\n"
      ++ String.intercalate "\n"
        (Part.all.filterMap fun part => renderSection? part.title (listing.entries part))
      ++ "\x7d\n" := rfl
  have hparts : (Part.all.filterMap fun part => renderSection? part.title (listing.entries part))
      = (Part.all.filterMap listing.partLines?).map unlines := by
    rw [List.map_filterMap]
    simp only [← renderSection?_eq]
  rw [hbody, hparts, bodyLines, unlines_append, unlines_append, unlines_intercalate,
    ← String.toList_inj]
  simp [unlines]

/-- Neither the name nor an entry of the listing has a newline. -/
structure OnLines (listing : Listing) : Prop where
  name : IsLine listing.namespaceName
  entries : ∀ part, ∀ entry ∈ listing.entries part, IsLine entry

theorem isLine_headingLine (part : Part) : IsLine (headingLine part) := by
  cases part <;> decide

theorem isLine_entryLine {entry : String} (h : IsLine entry) : IsLine (entryLine entry) := by
  have hindent : IsLine indent := by decide
  have hend : IsLine ";" := by decide
  exact (hindent.append h).append hend

theorem OnLines.isLine {listing : Listing} (h : listing.OnLines) :
    ∀ line ∈ listing.bodyLines, IsLine line := by
  have hfixed : IsLine "" ∧ IsLine "namespace " ∧ IsLine "\x7b" ∧ IsLine "\x7d" := by decide
  obtain ⟨hempty, hkeyword, hopening, hclosing⟩ := hfixed
  intro line hline
  simp only [bodyLines, List.mem_append, List.mem_cons, List.not_mem_nil, or_false] at hline
  rcases hline with ((rfl | rfl | rfl) | hparts) | rfl
  · exact hempty
  · exact hkeyword.append h.name
  · exact hopening
  · by_cases hne : line = ""
    · exact hne ▸ hempty
    · have hfilter : line ∈ ([""].intercalate (Part.all.filterMap listing.partLines?)).filter
          (· ≠ "") := List.mem_filter.mpr ⟨hparts, by simpa using hne⟩
      rw [filter_intercalate] at hfilter
      obtain ⟨part, rfl | ⟨entry, hentry, rfl⟩⟩ := mem_partLines? (List.mem_filter.mp hfilter).1
      · exact isLine_headingLine part
      · exact isLine_entryLine (h.entries part entry hentry)
  · exact hclosing

theorem isLine_stamp {time : String} (h : IsLine time) : IsLine ("// Generated on " ++ time) := by
  have hwords : IsLine "// Generated on " := by decide
  exact hwords.append h

theorem linesOf_render {listing : Listing} (h : listing.OnLines) {time : String}
    (htime : IsLine time) :
    linesOf (listing.render time)
      = ("// Generated on " ++ time) :: (listing.bodyLines ++ [""]) := by
  have htext : listing.render time
      = "// Generated on " ++ time ++ "\n" ++ unlines listing.bodyLines := by
    rw [← renderBody_eq_unlines]
    rfl
  rw [htext, linesOf_line_append (isLine_stamp htime), linesOf_unlines h.isLine]

/-- The lines that are indented are those of the sections. -/
theorem count_linesOf {listing : Listing} (h : listing.OnLines) {time : String}
    (htime : IsLine time) {line : String} (hline : line.toList.head? = some ' ') :
    (linesOf (listing.render time)).count line
      = (Part.all.flatMap fun part => (listing.partLines? part).getD []).count line := by
  have hempty : line ≠ "" := by
    rintro rfl
    exact absurd hline (by decide)
  have hbefore : line ∉ [("// Generated on " ++ time), "", "namespace " ++ listing.namespaceName,
      "\x7b"] := by
    intro hmem
    simp only [List.mem_cons, List.not_mem_nil, or_false] at hmem
    rcases hmem with rfl | rfl | rfl | rfl
    all_goals simp at hline
  have hafter : line ∉ ["\x7d", ""] := by
    intro hmem
    simp only [List.mem_cons, List.not_mem_nil, or_false] at hmem
    rcases hmem with rfl | rfl
    all_goals simp at hline
  have hlines : ("// Generated on " ++ time) :: (listing.bodyLines ++ [""])
      = [("// Generated on " ++ time), "", "namespace " ++ listing.namespaceName, "\x7b"]
        ++ [""].intercalate (Part.all.filterMap listing.partLines?) ++ ["\x7d", ""] := by
    simp [bodyLines]
  rw [linesOf_render h htime, hlines, List.count_append, List.count_append,
    List.count_eq_zero_of_not_mem hbefore, List.count_eq_zero_of_not_mem hafter,
    count_intercalate hempty, flatten_partLines, Nat.zero_add, Nat.add_zero]

end Listing

end ScriptHost
