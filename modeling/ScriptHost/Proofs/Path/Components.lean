import ScriptHost.Path.Include

/-!
# Components of paths

A path is told by its components.  Below a directory only names and steps up count (`below`), so the
components of a joined path are those of the directory followed by what the path says below it
(`components_join`).  Names joined by single slashes are read back one by one
(`components_intercalate`).
-/

namespace ScriptHost.Path

/-! ## Pieces -/

theorem split_ne_nil (cs : List Char) : split cs ≠ [] := by
  cases cs with
  | nil => exact List.cons_ne_nil _ _
  | cons c rest =>
    rw [split]
    split
    · exact List.cons_ne_nil _ _
    · split <;> exact List.cons_ne_nil _ _

theorem split_cons_slash (rest : List Char) : split ('/' :: rest) = [] :: split rest := by
  rw [split, if_pos rfl]

/-- A character other than a slash belongs to the first piece. -/
theorem split_cons_of_ne {c : Char} (h : c ≠ '/') (rest : List Char) :
    ∃ piece pieces, split rest = piece :: pieces ∧ split (c :: rest) = (c :: piece) :: pieces := by
  obtain ⟨piece, pieces, hrest⟩ := List.exists_cons_of_ne_nil (split_ne_nil rest)
  refine ⟨piece, pieces, hrest, ?_⟩
  rw [split, if_neg h, hrest]

/-- A slash separates pieces, whatever stands around it. -/
theorem split_append (front back : List Char) :
    split (front ++ '/' :: back) = split front ++ split back := by
  induction front with
  | nil => exact split_cons_slash back
  | cons c rest ih =>
    by_cases h : c = '/'
    · rw [h, List.cons_append, split_cons_slash, split_cons_slash, ih, List.cons_append]
    · obtain ⟨piece, pieces, hrest, hcons⟩ := split_cons_of_ne h rest
      obtain ⟨piece', pieces', hrest', hcons'⟩ := split_cons_of_ne h (rest ++ '/' :: back)
      rw [ih, hrest, List.cons_append, List.cons.injEq] at hrest'
      rw [List.cons_append, hcons', hcons, ← hrest'.1, ← hrest'.2, List.cons_append]

/-- The pieces of two texts with a slash between them. -/
theorem split_append_slash (front back : String) :
    split (front ++ "/" ++ back).toList = split front.toList ++ split back.toList := by
  rw [String.toList_append, String.toList_append, List.append_assoc]
  exact split_append _ _

theorem split_of_no_slash {cs : List Char} (h : '/' ∉ cs) : split cs = [cs] := by
  induction cs with
  | nil => rfl
  | cons c rest ih =>
    have hc : c ≠ '/' := fun e => h (e ▸ List.mem_cons_self)
    obtain ⟨piece, pieces, hrest, hcons⟩ := split_cons_of_ne hc rest
    rw [ih fun hmem => h (List.mem_cons_of_mem _ hmem), List.cons.injEq] at hrest
    rw [hcons, ← hrest.1, ← hrest.2]

theorem no_slash_of_mem_split {cs piece : List Char} (h : piece ∈ split cs) : '/' ∉ piece := by
  induction cs generalizing piece with
  | nil =>
    rw [List.mem_singleton.mp h]
    exact List.not_mem_nil
  | cons c rest ih =>
    by_cases hc : c = '/'
    · rw [hc, split_cons_slash] at h
      rcases List.mem_cons.mp h with rfl | h
      · exact List.not_mem_nil
      · exact ih h
    · obtain ⟨first, pieces, hrest, hcons⟩ := split_cons_of_ne hc rest
      rw [hrest] at ih
      rw [hcons] at h
      rcases List.mem_cons.mp h with rfl | h
      · intro hmem
        rcases List.mem_cons.mp hmem with hslash | hmem
        · exact hc hslash.symm
        · exact ih List.mem_cons_self hmem
      · exact ih (List.mem_cons_of_mem _ h)

/-! ## Names -/

/-- The text is the name of a file or directory: it is not empty, is no step and has no slash. -/
structure IsName (text : String) : Prop where
  ne_empty : text ≠ ""
  ne_here : text ≠ "."
  ne_up : text ≠ ".."
  no_slash : '/' ∉ text.toList

theorem componentOf?_ne_root (piece : List Char) : componentOf? piece ≠ some .root := by
  unfold componentOf?
  split <;> simp

theorem componentOf?_ne_here (piece : List Char) : componentOf? piece ≠ some .here := by
  unfold componentOf?
  split <;> simp

/-- A piece that stands for a name is that name. -/
theorem isName_of_componentOf? {piece : List Char} {text : String}
    (h : componentOf? piece = some (.name text)) (hslash : '/' ∉ piece) : IsName text := by
  unfold componentOf? at h
  split at h
  · cases h
  · cases h
  · cases h
  · next hempty hhere hup =>
    have htext : piece = text.toList := by
      have hname : String.ofList piece = text := by simpa using h
      rw [← hname, String.toList_ofList]
    refine ⟨?_, ?_, ?_, htext ▸ hslash⟩
    · rintro rfl
      exact hempty htext
    · rintro rfl
      exact hhere htext
    · rintro rfl
      exact hup htext

theorem IsName.componentOf? {text : String} (h : IsName text) :
    componentOf? text.toList = some (.name text) := by
  have hne : ∀ other : String, text ≠ other → text.toList ≠ other.toList := by
    intro other hother heq
    exact hother (String.toList_inj.mp heq)
  unfold Path.componentOf?
  split
  · next heq => exact absurd heq (hne "" h.ne_empty)
  · next heq => exact absurd heq (hne "." h.ne_here)
  · next heq => exact absurd heq (hne ".." h.ne_up)
  · rw [String.ofList_toList]

/-! ## Components -/

/-- What a path says below a directory: names and steps up. -/
def below (path : String) : List Component :=
  (split path.toList).filterMap componentOf?

/-- What a path says in front of that: that it begins at the root, or where one is. -/
def lead (path : String) : List Component :=
  if isAbsolute path then [.root]
  else if (split path.toList).head? = some ['.'] then [.here]
  else []

theorem isAbsolute_iff {path : String} :
    isAbsolute path = true ↔ ∃ rest, path.toList = '/' :: rest := by
  rw [isAbsolute, decide_eq_true_iff]
  cases path.toList with
  | nil => simp
  | cons c rest => simp

theorem components_eq (path : String) : components path = lead path ++ below path := by
  unfold components lead below
  by_cases habs : isAbsolute path = true
  · -- the first piece is empty, and a slash follows it
    obtain ⟨rest, hrest⟩ := isAbsolute_iff.mp habs
    obtain ⟨piece, pieces, hsplit⟩ := List.exists_cons_of_ne_nil (split_ne_nil rest)
    rw [if_pos habs, hrest, split_cons_slash, hsplit]
    rfl
  · rw [if_neg habs]
    rcases hsplit : split path.toList with _ | ⟨first, rest⟩
    · exact absurd hsplit (split_ne_nil _)
    · rcases first with _ | ⟨c, first⟩
      · -- a first piece that is empty is the whole path, which is not absolute
        have hpath : path.toList = [] := by
          rcases hlist : path.toList with _ | ⟨d, ds⟩
          · rfl
          · have hd : d ≠ '/' := fun e => habs (isAbsolute_iff.mpr ⟨ds, e ▸ hlist⟩)
            obtain ⟨piece, pieces, -, hcons⟩ := split_cons_of_ne hd ds
            rw [hlist, hcons, List.cons.injEq] at hsplit
            exact absurd hsplit.1 (List.cons_ne_nil _ _)
        have hrest : rest = [] := by
          rw [hpath, split, List.cons.injEq] at hsplit
          exact hsplit.2.symm
        rw [hrest]
        rfl
      · by_cases hdot : c :: first = ['.']
        · rw [hdot]
          rfl
        · have hlead : leading (!rest.isEmpty) (c :: first) = (componentOf? (c :: first)).toList := by
            unfold leading
            split
            · next h => cases h
            · next h => exact absurd h hdot
            · rfl
          have hhead : ((c :: first) :: rest).head? ≠ some ['.'] := by
            intro h
            exact hdot (Option.some.inj h)
          simp only [hlead, hhead, if_false, List.nil_append, List.filterMap_cons]
          cases componentOf? (c :: first) <;> rfl

theorem root_not_mem_below (path : String) : .root ∉ below path := by
  intro h
  obtain ⟨piece, -, hpiece⟩ := List.mem_filterMap.mp h
  exact componentOf?_ne_root piece hpiece

theorem here_not_mem_below (path : String) : .here ∉ below path := by
  intro h
  obtain ⟨piece, -, hpiece⟩ := List.mem_filterMap.mp h
  exact componentOf?_ne_here piece hpiece

theorem isName_of_mem_below {path text : String} (h : .name text ∈ below path) : IsName text := by
  obtain ⟨piece, hmem, hpiece⟩ := List.mem_filterMap.mp h
  exact isName_of_componentOf? hpiece (no_slash_of_mem_split hmem)

theorem not_mem_lead {path : String} {c : Component} (hroot : c ≠ .root) (hhere : c ≠ .here) :
    c ∉ lead path := by
  unfold lead
  split
  · simpa using hroot
  · split
    · simpa using hhere
    · exact List.not_mem_nil

theorem isName_of_mem_components {path text : String} (h : .name text ∈ components path) :
    IsName text := by
  rw [components_eq] at h
  rcases List.mem_append.mp h with h | h
  · exact absurd h (not_mem_lead (fun e => by cases e) fun e => by cases e)
  · exact isName_of_mem_below h

theorem root_mem_components {path : String} :
    .root ∈ components path ↔ isAbsolute path = true := by
  rw [components_eq, List.mem_append]
  constructor
  · rintro (h | h)
    · unfold lead at h
      split at h
      · assumption
      · split at h <;> simp at h
    · exact absurd h (root_not_mem_below path)
  · intro h
    exact Or.inl (by simp [lead, h])

theorem components_of_lead_nil {path : String} (h : lead path = []) :
    components path = below path := by
  rw [components_eq, h, List.nil_append]

/-! ## Joining -/

/-- A path that follows a slash only says what it says below. -/
theorem components_append_slash (base path : String) :
    components (base ++ "/" ++ path) = components (base ++ "/") ++ below path := by
  obtain ⟨first, rest, hbase⟩ := List.exists_cons_of_ne_nil (split_ne_nil base.toList)
  have hempty : split "".toList = [[]] := rfl
  have hslash : split (base ++ "/").toList = split base.toList ++ [[]] := by
    have h := split_append_slash base ""
    rwa [String.append_empty, hempty] at h
  have hmore : ∀ pieces : List (List Char), pieces ≠ [] →
      (rest ++ pieces).isEmpty = false := by
    intro pieces h
    rw [List.isEmpty_eq_false_iff]
    exact List.append_ne_nil_of_right_ne_nil _ h
  unfold components below
  rw [split_append_slash, hslash, hbase]
  simp only [List.cons_append, hmore _ (split_ne_nil _), hmore [[]] (List.cons_ne_nil _ _),
    List.filterMap_append, List.append_assoc]
  rfl

/-- A slash at the end of a path says nothing. -/
theorem components_slash {base : String} (h : base ≠ "") :
    components (base ++ "/") = components base := by
  have hsplit : split (base ++ "/").toList = split base.toList ++ [[]] := by
    rw [String.toList_append]
    exact split_append base.toList []
  have habs : isAbsolute (base ++ "/") = isAbsolute base := by
    unfold isAbsolute
    have hne : base.toList ≠ [] := by simpa using h
    obtain ⟨c, cs, hcs⟩ := List.exists_cons_of_ne_nil hne
    rw [String.toList_append, hcs]
    rfl
  have hhead : (split (base ++ "/").toList).head? = (split base.toList).head? := by
    obtain ⟨first, rest, hbase⟩ := List.exists_cons_of_ne_nil (split_ne_nil base.toList)
    rw [hsplit, hbase]
    rfl
  have hbelow : below (base ++ "/") = below base := by
    rw [below, hsplit, List.filterMap_append, below]
    exact List.append_nil _
  rw [components_eq, components_eq, hbelow, lead, lead, habs, hhead]

/-- Below a directory that has a path of its own, a relative path adds what it says below. -/
theorem components_join {base path : String} (hbase : base ≠ "") (hpath : isAbsolute path = false) :
    components (join base path) = components base ++ below path := by
  have hempty : base.isEmpty = false := by simpa using hbase
  unfold join
  rw [hpath, hempty]
  simp only [Bool.or_self, Bool.false_eq_true, if_false]
  split
  · next hlast =>
    -- the slash that the directory ends with is the one that separates
    obtain ⟨front, hfront⟩ := List.getLast?_eq_some_iff.mp hlast
    have hsame : String.ofList front ++ "/" = base := by
      rw [← String.toList_inj, String.toList_append, String.toList_ofList, hfront]
      rfl
    have h := components_append_slash (String.ofList front) path
    rwa [hsame] at h
  · rw [components_append_slash, components_slash hbase]

theorem join_empty (path : String) : join "" path = path := by
  unfold join
  rw [if_pos]
  exact Bool.or_true _

/-! ## Names joined by slashes -/

theorem below_cons {name : String} (h : IsName name) (path : String) :
    below (name ++ "/" ++ path) = .name name :: below path := by
  rw [below, split_append_slash, split_of_no_slash h.no_slash, List.singleton_append,
    List.filterMap_cons, h.componentOf?, below]

theorem intercalate_cons_cons (name next : String) (rest : List String) :
    String.intercalate "/" (name :: next :: rest)
      = name ++ "/" ++ String.intercalate "/" (next :: rest) := by
  simp [String.append_assoc]

theorem below_intercalate {names : List String} (h : ∀ n ∈ names, IsName n) :
    below (String.intercalate "/" names) = names.map .name := by
  induction names with
  | nil => rfl
  | cons name rest ih =>
    have hname : IsName name := h name List.mem_cons_self
    cases rest with
    | nil =>
      have hone : String.intercalate "/" [name] = name := by simp
      rw [hone, below, split_of_no_slash hname.no_slash, List.filterMap_cons, hname.componentOf?]
      rfl
    | cons next rest =>
      rw [intercalate_cons_cons, below_cons hname,
        ih fun n hn => h n (List.mem_cons_of_mem _ hn), List.map_cons (l := next :: rest)]

/-- Such a path begins neither with a slash nor with a dot alone. -/
theorem lead_intercalate {names : List String} (h : ∀ n ∈ names, IsName n) :
    lead (String.intercalate "/" names) = [] := by
  cases names with
  | nil => rfl
  | cons name rest =>
    have hname : IsName name := h name List.mem_cons_self
    obtain ⟨c, cs, hcs⟩ : ∃ c cs, name.toList = c :: cs :=
      List.exists_cons_of_ne_nil (by simpa using hname.ne_empty)
    have hslash : c ≠ '/' := by
      intro e
      exact hname.no_slash (by rw [hcs, e]; exact List.mem_cons_self)
    have hdot : name.toList ≠ ['.'] := fun e => hname.ne_here (String.toList_inj.mp e)
    -- the first piece is the first name, whether there is another one or not
    obtain ⟨tail, hlist, hsplit⟩ : ∃ tail,
        (String.intercalate "/" (name :: rest)).toList = name.toList ++ tail ∧
        (split (String.intercalate "/" (name :: rest)).toList).head? = some name.toList := by
      cases rest with
      | nil =>
        have hone : String.intercalate "/" [name] = name := by simp
        refine ⟨[], by rw [hone, List.append_nil], ?_⟩
        rw [hone, split_of_no_slash hname.no_slash]
        rfl
      | cons next rest =>
        rw [intercalate_cons_cons, split_append_slash, split_of_no_slash hname.no_slash,
          String.toList_append, String.toList_append, List.append_assoc]
        exact ⟨_, rfl, rfl⟩
    have habs : isAbsolute (String.intercalate "/" (name :: rest)) = false := by
      rw [isAbsolute, hlist, hcs]
      simpa using hslash
    have hhead : (split (String.intercalate "/" (name :: rest)).toList).head? ≠ some ['.'] := by
      rw [hsplit]
      exact fun e => hdot (Option.some.inj e)
    rw [lead, habs, if_neg Bool.false_ne_true, if_neg hhead]

theorem components_intercalate {names : List String} (h : ∀ n ∈ names, IsName n) :
    components (String.intercalate "/" names) = names.map .name := by
  rw [components_of_lead_nil (lead_intercalate h), below_intercalate h]

end ScriptHost.Path
