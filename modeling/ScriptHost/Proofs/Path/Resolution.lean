import ScriptHost.Proofs.Path.Include
import ScriptHost.Proofs.Path.Parent

/-!
# Include paths compose

A section may go by the path that a directive spells, such as `lib/../main.as`, or by its include
path.  Both mean one place, so that what the section includes does not depend on which of them is its
name.

* `includePath_eq_spelled`: an include path is found by following from the root what the directive
  spells below the directory of its section.
* `includePath_eq_walkPieces`: it is the stack of names that remains after a walk piece by piece.
* `SectionName.includePath_eq`: all names that a file gets along a chain of nested includes give the
  same include paths.
-/

namespace ScriptHost.Path

/-! ## What a directive spells -/

/-- The path that a directive spells: below the root, or below the directory of its section. -/
def spelled (path sectionName : String) : String :=
  match path.toList with
  | '/' :: rest => String.ofList rest
  | _ => join ((parent? sectionName).getD "") path

theorem follow_append (place : List String) (front back : List Component) :
    follow place (front ++ back) = follow (follow place front) back :=
  List.foldl_append

theorem directoryOf_eq (sectionName : String) :
    directoryOf sectionName = follow [] (components ((parent? sectionName).getD "")) := by
  rw [directoryOf, components_parent]

theorem spelled_of_absolute {path : String} {rest : List Char} (h : path.toList = '/' :: rest)
    (sectionName : String) : spelled path sectionName = String.ofList rest := by
  simp only [spelled, h]

theorem spelled_of_relative {path : String} (h : isAbsolute path = false) (sectionName : String) :
    spelled path sectionName = join ((parent? sectionName).getD "") path := by
  unfold spelled
  split
  · next rest hrest =>
    rw [isAbsolute_iff.mpr ⟨rest, hrest⟩] at h
    cases h
  · rfl

/-- Following what a directive spells leads from the place of the section where the directive does. -/
theorem follow_spelled (path sectionName : String) :
    follow [] (components (spelled path sectionName))
      = follow (startOf path sectionName) (below path) := by
  by_cases habs : isAbsolute path = true
  · obtain ⟨rest, hrest⟩ := isAbsolute_iff.mp habs
    rw [startOf, if_pos habs, spelled_of_absolute hrest, follow_components,
      ← below_slash (String.ofList rest), ← eq_slash_append hrest]
  · rw [startOf, if_neg habs, directoryOf_eq]
    rw [Bool.not_eq_true] at habs
    rw [spelled_of_relative habs]
    -- without a directory the path is taken as it is, with a dot in front if it has one
    by_cases hdirectory : (parent? sectionName).getD "" = ""
    · rw [hdirectory, join_empty, follow_components]
      rfl
    · rw [components_join hdirectory habs, follow_append]

/-- An include path is found by following what the directive spells from the root. -/
theorem includePath_eq_spelled (path sectionName : String) :
    includePath path sectionName = render (follow [] (components (spelled path sectionName))) := by
  rw [includePath_eq, follow_spelled]

/-! ## Places as stacks of names -/

/-- Where a piece of a path leads: a name goes in, two dots go out as far as there is an outside,
and what stands for nothing stays. -/
def stepPiece (place : List String) (piece : List Char) : List String :=
  if piece = [] ∨ piece = ['.'] then place
  else if piece = ['.', '.'] then place.tail
  else String.ofList piece :: place

/-- The place reached from a place by a path, piece by piece. -/
def walkPieces (place : List String) (path : String) : List String :=
  (split path.toList).foldl stepPiece place

theorem stepPiece_eq (place : List String) (piece : List Char) :
    stepPiece place piece = ((componentOf? piece).elim place (enter place)) := by
  unfold stepPiece componentOf?
  split
  · next h =>
    rcases h with rfl | rfl
    · rfl
    · rfl
  · next h =>
    rw [not_or] at h
    split
    · next hup =>
      rw [hup]
      rfl
    · next hup =>
      split
      · exact absurd rfl h.1
      · exact absurd rfl h.2
      · exact absurd rfl hup
      · rfl

theorem walkPieces_eq (place : List String) (path : String) :
    walkPieces place path = follow place (below path) := by
  unfold walkPieces follow below
  induction split path.toList generalizing place with
  | nil => rfl
  | cons piece pieces ih =>
    rw [List.foldl_cons, stepPiece_eq, ih, List.filterMap_cons]
    cases componentOf? piece with
    | none => rfl
    | some c => rfl

/-- An include path is the stack of names that remains after the directory of the section, unless
the path begins at the root, and then the path have been walked. -/
theorem includePath_eq_walkPieces (path sectionName : String) :
    includePath path sectionName
      = render (walkPieces
          (if isAbsolute path then [] else walkPieces [] ((parent? sectionName).getD "")) path) := by
  have hdirectory : directoryOf sectionName = walkPieces [] ((parent? sectionName).getD "") := by
    rw [directoryOf_eq, follow_components, walkPieces_eq]
  rw [includePath_eq, walkPieces_eq, ← hdirectory]
  rfl

/-! ## Resolved names -/

/-- From the root the name of the section does not matter. -/
theorem includePath_slash (path sectionName : String) :
    includePath ("/" ++ path) sectionName = render (follow [] (components path)) := by
  rw [includePath_eq, startOf_slash, below_slash, follow_components]

theorem follow_names (names : List String) : follow [] (names.map .name) = names.reverse := by
  have hstep : ∀ place : List String, follow place (names.map .name) = names.reverse ++ place := by
    induction names with
    | nil => exact fun place => rfl
    | cons name rest ih =>
      intro place
      rw [List.map_cons, List.reverse_cons, List.append_assoc]
      exact ih (name :: place)
  rw [hstep, List.append_nil]

/-- A place of names is read back from its path. -/
theorem components_render {place : List String} (h : ∀ n ∈ place, IsName n) :
    components (render place) = place.reverse.map .name :=
  components_intercalate fun _ hn => h _ (List.mem_reverse.mp hn)

theorem isName_of_mem_placeOf (path : String) :
    ∀ n ∈ follow [] (components path), IsName n :=
  isName_of_mem_follow (fun _ hn => absurd hn List.not_mem_nil) (namesOnly_components path)

/-- The path of a place leads to it. -/
theorem follow_render {place : List String} (h : ∀ n ∈ place, IsName n) :
    follow [] (components (render place)) = place := by
  rw [components_render h, follow_names, List.reverse_reverse]

/-- An include path is its own include path from the root. -/
theorem includePath_includePath (path sectionName otherName : String) :
    includePath ("/" ++ includePath path sectionName) otherName = includePath path sectionName := by
  rw [includePath_slash, includePath_eq_spelled path sectionName,
    follow_render (isName_of_mem_placeOf _)]

/-- The last component of the path is a name, so that the path can be that of a file. -/
def EndsInName (path : String) : Prop :=
  ∃ name, (components path).getLast? = some (.name name)

/-- The directory of a section is one step out of the section's own place. -/
theorem EndsInName.directoryOf_eq {path : String} (h : EndsInName path) :
    directoryOf path = (follow [] (components path)).tail := by
  obtain ⟨name, hname⟩ := h
  obtain ⟨front, hfront⟩ := List.getLast?_eq_some_iff.mp hname
  rw [directoryOf, hfront, List.dropLast_concat, follow_append]
  rfl

theorem EndsInName.ne_nil {path : String} (h : EndsInName path) :
    follow [] (components path) ≠ [] := by
  obtain ⟨name, hname⟩ := h
  obtain ⟨front, hfront⟩ := List.getLast?_eq_some_iff.mp hname
  rw [hfront, follow_append]
  exact List.cons_ne_nil _ _

theorem endsInName_render {place : List String} (h : ∀ n ∈ place, IsName n) (hne : place ≠ []) :
    EndsInName (render place) := by
  obtain ⟨name, outer, rfl⟩ := List.exists_cons_of_ne_nil hne
  refine ⟨name, ?_⟩
  rw [components_render h, List.reverse_cons, List.map_append]
  exact List.getLast?_concat

/-- Sections at one place include the same files, however their names are spelled. -/
theorem includePath_congr {sectionName otherName : String} (h : EndsInName sectionName)
    (h' : EndsInName otherName)
    (hplace : follow [] (components sectionName) = follow [] (components otherName))
    (path : String) : includePath path sectionName = includePath path otherName := by
  rw [includePath_eq, includePath_eq, startOf, startOf, h.directoryOf_eq, h'.directoryOf_eq, hplace]

theorem follow_includePath_slash (path sectionName : String) :
    follow [] (components (includePath ("/" ++ path) sectionName))
      = follow [] (components path) := by
  rw [includePath_slash, follow_render (isName_of_mem_placeOf path)]

theorem EndsInName.includePath_slash {path : String} (h : EndsInName path) (sectionName : String) :
    EndsInName (includePath ("/" ++ path) sectionName) := by
  rw [Path.includePath_slash]
  exact endsInName_render (isName_of_mem_placeOf path) h.ne_nil

/-- What a section includes does not depend on whether its name has been resolved. -/
theorem includePath_resolved {sectionName : String} (h : EndsInName sectionName)
    (path otherName : String) :
    includePath path (includePath ("/" ++ sectionName) otherName)
      = includePath path sectionName :=
  includePath_congr (h.includePath_slash otherName) h (follow_includePath_slash _ _) path

/-! ## Chains of nested includes -/

/-- The last component is one of those that count below a directory. -/
theorem endsInName_iff {path : String} :
    EndsInName path ↔ ∃ name, (below path).getLast? = some (.name name) := by
  unfold EndsInName
  rw [components_eq]
  rcases List.eq_nil_or_concat (below path) with hnil | ⟨front, last, hconcat⟩
  · rw [hnil, List.append_nil]
    constructor
    · rintro ⟨name, hname⟩
      exact absurd (List.mem_of_getLast? hname) (not_mem_lead (by simp) (by simp))
    · rintro ⟨name, hname⟩
      cases hname
  · rw [hconcat, List.concat_eq_append, ← List.append_assoc, List.getLast?_concat,
      List.getLast?_concat]

theorem EndsInName.spelled {path : String} (h : EndsInName path) (sectionName : String) :
    EndsInName (spelled path sectionName) := by
  obtain ⟨name, hname⟩ := endsInName_iff.mp h
  by_cases habs : isAbsolute path = true
  · obtain ⟨rest, hrest⟩ := isAbsolute_iff.mp habs
    rw [spelled_of_absolute hrest, endsInName_iff, ← below_slash, ← eq_slash_append hrest]
    exact ⟨name, hname⟩
  · rw [Bool.not_eq_true] at habs
    rw [spelled_of_relative habs]
    by_cases hdirectory : (parent? sectionName).getD "" = ""
    · rw [hdirectory, join_empty]
      exact h
    · refine ⟨name, ?_⟩
      rw [components_join hdirectory habs, List.getLast?_append, hname]
      rfl

/-- The names of the file that a chain of nested includes leads to from an entry file.  At every link
the file is named as its directive spells it, and any name may be resolved. -/
inductive SectionName (entry : String) : List String → String → Prop
  | entry : SectionName entry [] entry
  | included {chain : List String} {name : String} (path : String) :
      SectionName entry chain name → SectionName entry (chain ++ [path]) (spelled path name)
  | resolved {chain : List String} {name : String} (otherName : String) :
      SectionName entry chain name →
        SectionName entry chain (includePath ("/" ++ name) otherName)

/-- The place of a file that is included by the file at a place. -/
def nestedPlace (place : List String) (path : String) : List String :=
  follow (if isAbsolute path then [] else place.tail) (below path)

namespace SectionName

variable {entry name : String} {chain : List String}

theorem endsInName (hentry : EndsInName entry) (hchain : ∀ link ∈ chain, EndsInName link)
    (h : SectionName entry chain name) : EndsInName name := by
  induction h with
  | entry => exact hentry
  | included path _ _ => exact (hchain path List.mem_concat_self).spelled _
  | resolved otherName _ ih => exact (ih hchain).includePath_slash otherName

/-- Whatever its name, the file is where its chain leads. -/
theorem place_eq (hentry : EndsInName entry) (hchain : ∀ link ∈ chain, EndsInName link)
    (h : SectionName entry chain name) :
    follow [] (components name) = chain.foldl nestedPlace (follow [] (components entry)) := by
  -- a spelled name is one link further, a resolved one stays in its place
  induction h with
  | entry => rfl
  | @included chain name path hname ih =>
    have hearlier : ∀ link ∈ chain, EndsInName link :=
      fun link hlink => hchain link (List.mem_append_left _ hlink)
    have hends : EndsInName name := hname.endsInName hentry hearlier
    rw [List.foldl_append, ← ih hearlier, follow_spelled, startOf, hends.directoryOf_eq]
    rfl
  | resolved otherName _ ih =>
    rw [follow_includePath_slash]
    exact ih hchain

/-- A file includes the same files under all of its names. -/
theorem includePath_eq {otherName : String} (hentry : EndsInName entry)
    (hchain : ∀ link ∈ chain, EndsInName link) (h : SectionName entry chain name)
    (h' : SectionName entry chain otherName) (path : String) :
    includePath path name = includePath path otherName := by
  refine includePath_congr (h.endsInName hentry hchain) (h'.endsInName hentry hchain) ?_ path
  rw [h.place_eq hentry hchain, h'.place_eq hentry hchain]

end SectionName

/-- Include paths are canonical and compose: an include path is its own include path from the root,
from where the section does not matter; and what a section includes does not depend on how its name
is spelled, be it an entry file or at the end of a chain of nested includes.  An include path is the
stack of names that remains after the directory of the section and the path have been walked piece by
piece. -/
theorem include_composes :
    (∀ path sectionName otherName,
      includePath ("/" ++ includePath path sectionName) otherName = includePath path sectionName) ∧
    (∀ path sectionName otherName,
      includePath ("/" ++ path) sectionName = includePath ("/" ++ path) otherName) ∧
    (∀ path sectionName otherName, EndsInName sectionName →
      includePath path sectionName
        = includePath path (includePath ("/" ++ sectionName) otherName)) ∧
    (∀ entry chain name otherName, EndsInName entry → (∀ link ∈ chain, EndsInName link) →
      SectionName entry chain name → SectionName entry chain otherName →
      ∀ path, includePath path name = includePath path otherName) ∧
    ∀ path sectionName,
      includePath path sectionName
        = render (walkPieces
            (if isAbsolute path then [] else walkPieces [] ((parent? sectionName).getD "")) path) := by
  refine ⟨includePath_includePath, ?_, ?_, ?_, includePath_eq_walkPieces⟩
  · intro path sectionName otherName
    rw [includePath_slash, includePath_slash]
  · intro path sectionName otherName h
    exact (includePath_resolved h path otherName).symm
  · intro entry chain name otherName hentry hchain h h' path
    exact h.includePath_eq hentry hchain h' path

/-- A main file with a roundabout name includes a file that includes another one, once under the name
that its directive spells and once under the resolved one. -/
theorem include_composes_roundabout :
    EndsInName "./lib/../main.as" ∧
      includePath "a.as" "./lib/../main.as"
        = includePath "a.as" (includePath ("/" ++ "./lib/../main.as") "x/y") ∧
      includePath "../b.as" "./lib/../sub//a.as" = includePath "../b.as" "sub/a.as" := by
  have hmain : EndsInName "./lib/../main.as" := ⟨"main.as", by decide⟩
  have hlink : ∀ link ∈ ["sub//a.as"], EndsInName link := by
    intro link h
    rw [List.mem_singleton.mp h]
    exact ⟨"a.as", by decide⟩
  have hspelled : spelled "sub//a.as" "./lib/../main.as" = "./lib/../sub//a.as" := by decide
  have hresolved : includePath ("/" ++ "./lib/../sub//a.as") "" = "sub/a.as" := by decide
  have hname : SectionName "./lib/../main.as" ["sub//a.as"] "./lib/../sub//a.as" :=
    hspelled ▸ SectionName.included "sub//a.as" .entry
  have hother : SectionName "./lib/../main.as" ["sub//a.as"] "sub/a.as" :=
    hresolved ▸ SectionName.resolved "" hname
  obtain ⟨-, -, hresolve, hnames, -⟩ := include_composes
  exact ⟨hmain, hresolve "a.as" _ "x/y" hmain,
    hnames _ _ _ _ hmain hlink hname hother "../b.as"⟩

end ScriptHost.Path
