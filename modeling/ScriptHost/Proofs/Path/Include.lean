import ScriptHost.Proofs.Path.Components

/-!
# Include paths are canonical

The place that an include is looked up from, and every place reached on the way, is a stack of
names, so an include path is names joined by single slashes (`includePath_canonical`).  A step up
takes the innermost name off; where there is none, the place stays the root
(`follow_replicate_up`).
-/

namespace ScriptHost.Path

/-- The path is names joined by single slashes. -/
def IsCanonical (path : String) : Prop :=
  ∃ names : List String, (∀ n ∈ names, IsName n) ∧ path = String.intercalate "/" names

/-- The texts among components that are called names are names. -/
def NamesOnly (components : List Component) : Prop :=
  ∀ text, .name text ∈ components → IsName text

theorem namesOnly_components (path : String) : NamesOnly (components path) :=
  fun _ h => isName_of_mem_components h

/-! ## Following -/

theorem isName_of_mem_enter {place : List String} {component : Component}
    (hplace : ∀ n ∈ place, IsName n) (hcomponent : ∀ text, component = .name text → IsName text) :
    ∀ n ∈ enter place component, IsName n := by
  cases component with
  | root => exact hplace
  | here => exact hplace
  | up => exact fun n hn => hplace n (List.mem_of_mem_tail hn)
  | name text => exact List.forall_mem_cons.mpr ⟨hcomponent text rfl, hplace⟩

theorem isName_of_mem_follow {place : List String} {components : List Component}
    (hplace : ∀ n ∈ place, IsName n) (h : NamesOnly components) :
    ∀ n ∈ follow place components, IsName n := by
  induction components generalizing place with
  | nil => exact hplace
  | cons component rest ih =>
    refine ih (isName_of_mem_enter hplace ?_) fun text ht => h text (List.mem_cons_of_mem _ ht)
    intro text heq
    exact h text (heq ▸ List.mem_cons_self)

/-- So many steps up take as many names off, as long as there are any. -/
theorem follow_replicate_up (place : List String) (count : Nat) (components : List Component) :
    follow place (List.replicate count .up ++ components)
      = follow (place.drop count) components := by
  induction count generalizing place with
  | zero => rfl
  | succ count ih =>
    have hstep : follow place (List.replicate (count + 1) .up ++ components)
        = follow place.tail (List.replicate count .up ++ components) := rfl
    rw [hstep, ih, List.drop_tail]

/-! ## Includes -/

theorem isName_of_mem_directoryOf (sectionName : String) :
    ∀ n ∈ directoryOf sectionName, IsName n := by
  refine isName_of_mem_follow (fun n hn => absurd hn List.not_mem_nil) ?_
  intro text h
  exact namesOnly_components sectionName text ((List.dropLast_sublist _).subset h)

/-- The place where an include is looked up ends at names only. -/
theorem includePath_eq_render (path sectionName : String) :
    ∃ place, (∀ n ∈ place, IsName n) ∧ includePath path sectionName = render place := by
  unfold includePath
  split
  · exact ⟨_, isName_of_mem_follow (fun n hn => absurd hn List.not_mem_nil)
      (namesOnly_components _), rfl⟩
  · exact ⟨_, isName_of_mem_follow (isName_of_mem_directoryOf sectionName)
      (namesOnly_components _), rfl⟩

/-- The components of an include path are the names that it consists of. -/
theorem includePath_components (path sectionName : String) :
    ∃ names : List String, (∀ n ∈ names, IsName n) ∧
      includePath path sectionName = String.intercalate "/" names ∧
      components (includePath path sectionName) = names.map .name := by
  obtain ⟨place, hplace, heq⟩ := includePath_eq_render path sectionName
  have hnames : ∀ n ∈ place.reverse, IsName n := fun n hn => hplace n (List.mem_reverse.mp hn)
  refine ⟨place.reverse, hnames, heq, ?_⟩
  rw [heq]
  exact components_intercalate hnames

theorem includePath_canonical (path sectionName : String) :
    IsCanonical (includePath path sectionName) := by
  obtain ⟨names, hnames, heq, -⟩ := includePath_components path sectionName
  exact ⟨names, hnames, heq⟩

/-! ## Steps up -/

/-- What stands in front of the names and steps of a path leads nowhere. -/
theorem follow_components (place : List String) (path : String) :
    follow place (components path) = follow place (below path) := by
  rw [components_eq]
  unfold lead
  split
  · rfl
  · split <;> rfl

theorem below_append_slash (front back : String) :
    below (front ++ "/" ++ back) = below front ++ below back := by
  rw [below, split_append_slash, List.filterMap_append, below, below]

theorem below_slash (path : String) : below ("/" ++ path) = below path := by
  have h := below_append_slash "" path
  rwa [String.empty_append] at h

/-- Where an include is looked up: at the root, or in the directory of its section. -/
def startOf (path sectionName : String) : List String :=
  if isAbsolute path then [] else directoryOf sectionName

theorem eq_slash_append {path : String} {rest : List Char} (h : path.toList = '/' :: rest) :
    path = "/" ++ String.ofList rest := by
  rw [← String.toList_inj, h]
  simp

theorem startOf_slash (path sectionName : String) : startOf ("/" ++ path) sectionName = [] := by
  have habs : isAbsolute ("/" ++ path) = true := by
    rw [isAbsolute, String.toList_append]
    rfl
  rw [startOf, if_pos habs]

theorem includePath_eq (path sectionName : String) :
    includePath path sectionName = render (follow (startOf path sectionName) (below path)) := by
  unfold includePath startOf
  split
  · next rest hrest =>
    have habs : isAbsolute path = true := isAbsolute_iff.mpr ⟨rest, hrest⟩
    rw [if_pos habs, follow_components, ← below_slash (String.ofList rest),
      ← eq_slash_append hrest]
  · next hrelative =>
    have habs : isAbsolute path ≠ true := by
      intro h
      obtain ⟨rest, hrest⟩ := isAbsolute_iff.mp h
      exact hrelative rest hrest
    rw [if_neg habs, follow_components]

/-- A number of steps up, as they are written. -/
def ups (count : Nat) : String :=
  String.join (List.replicate count "../")

theorem ups_succ_append (count : Nat) (path : String) :
    ups (count + 1) ++ path = ".." ++ "/" ++ (ups count ++ path) := by
  rw [← String.toList_inj]
  simp [ups, List.replicate_succ]

theorem below_ups (count : Nat) (path : String) :
    below (ups count ++ path) = List.replicate count .up ++ below path := by
  induction count with
  | zero => simp [ups]
  | succ count ih =>
    rw [ups_succ_append, below_append_slash, ih]
    rfl

/-- Enough steps up lead to the root, and more of them lead no further. -/
theorem includePath_ups {count : Nat} {sectionName : String} (path : String)
    (h : (directoryOf sectionName).length ≤ count) :
    includePath (ups count ++ path) sectionName = includePath ("/" ++ path) sectionName := by
  have hplace : (startOf (ups count ++ path) sectionName).drop count = [] := by
    apply List.drop_eq_nil_of_le
    unfold startOf
    split
    · exact Nat.zero_le count
    · exact h
  rw [includePath_eq, below_ups, follow_replicate_up, hplace, includePath_eq, startOf_slash,
    below_slash]

end ScriptHost.Path
