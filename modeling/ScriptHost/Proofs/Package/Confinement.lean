import ScriptHost.Proofs.Package.OpenFiles
import ScriptHost.Proofs.Path.Include

/-!
# Packages are not left

A package in a directory refuses the paths that could lead out of it: it neither opens them nor says
that there is such a file (`refuses_iff`).  Any other it looks up at or below its root, and opens
what is there (`looksUp_iff`, `LooksUp.atOrBelow`).  A canonical path is never refused, and leads
exactly to its names below the root (`leadsTo_intercalate`).  Whatever a compilation includes, in
whatever nesting, the package is asked for canonical paths only (`Compilation.follow_opens`), so all
of them together say that includes stay in the package (`includes_confined`).
-/

namespace ScriptHost

namespace Path

/-- Read component by component, the path leads to a place at or below the root. -/
def AtOrBelow (root path : String) : Prop :=
  ∃ names : List String, (∀ n ∈ names, IsName n) ∧
    (components path).filter (· ≠ .here)
      = (components root).filter (· ≠ .here) ++ names.map .name

/-- Components that are all names. -/
theorem exists_names {cs : List Component} (hnames : NamesOnly cs) (hroot : .root ∉ cs)
    (hhere : .here ∉ cs) (hup : .up ∉ cs) :
    ∃ names : List String, (∀ n ∈ names, IsName n) ∧ cs = names.map .name := by
  induction cs with
  | nil => exact ⟨[], fun n hn => absurd hn List.not_mem_nil, rfl⟩
  | cons c rest ih =>
    obtain ⟨names, hrest, heq⟩ := ih (fun text h => hnames text (List.mem_cons_of_mem _ h))
      (fun h => hroot (List.mem_cons_of_mem _ h)) (fun h => hhere (List.mem_cons_of_mem _ h))
      fun h => hup (List.mem_cons_of_mem _ h)
    cases c with
    | root => exact absurd List.mem_cons_self hroot
    | here => exact absurd List.mem_cons_self hhere
    | up => exact absurd List.mem_cons_self hup
    | name text =>
      have htext : IsName text := hnames text List.mem_cons_self
      exact ⟨text :: names, List.forall_mem_cons.mpr ⟨htext, hrest⟩, by rw [heq, List.map_cons]⟩

theorem IsCanonical.not_isAbsolute {path : String} (h : IsCanonical path) :
    isAbsolute path = false := by
  obtain ⟨names, hnames, rfl⟩ := h
  rw [← Bool.not_eq_true, ← root_mem_components, components_intercalate hnames]
  simp

end Path

namespace DirectoryPackage

open ScriptHost.Path

/-! ## Paths of a package -/

/-- The check of a path, as a condition on it: no root in front and no step up anywhere. -/
theorem fullPath?_eq (package : DirectoryPackage) (path : String) :
    package.fullPath? path =
      if isAbsolute path = false ∧ .up ∉ components path then some (join package.root path)
      else none := by
  unfold fullPath?
  refine ite_congr (propext ?_) (fun _ => rfl) fun _ => rfl
  rw [← Bool.not_eq_true, ← root_mem_components, List.all_eq_true]
  constructor
  · intro hall
    exact ⟨fun h => Bool.false_ne_true (hall _ h), fun h => Bool.false_ne_true (hall _ h)⟩
  · rintro ⟨hroot, hup⟩ c hc
    cases c with
    | root => exact absurd hc hroot
    | up => exact absurd hc hup
    | here | name => rfl

theorem fullPath?_eq_some_iff (package : DirectoryPackage) (path full : String) :
    package.fullPath? path = some full ↔
      isAbsolute path = false ∧ .up ∉ components path ∧ full = join package.root path := by
  rw [fullPath?_eq, Option.ite_none_right_eq_some, and_assoc, Option.some_inj, eq_comm (a := full)]

theorem fullPath?_eq_none_iff (package : DirectoryPackage) (path : String) :
    package.fullPath? path = none ↔ isAbsolute path = true ∨ .up ∈ components path := by
  rw [fullPath?_eq, ite_eq_right_iff]
  constructor
  · intro h
    apply Classical.byContradiction
    intro hout
    rw [not_or, Bool.not_eq_true] at hout
    exact Option.some_ne_none _ (h hout)
  · rintro (habs | hup) ⟨habs', hup'⟩
    · rw [habs'] at habs
      exact absurd habs Bool.false_ne_true
    · exact absurd hup hup'

/-- What is not refused is looked up at or below the root. -/
theorem fullPath?_atOrBelow {package : DirectoryPackage} {path full : String}
    (h : package.fullPath? path = some full) : AtOrBelow package.root full := by
  obtain ⟨habs, hup, rfl⟩ := (package.fullPath?_eq_some_iff path full).mp h
  have hsub : ∀ c, c ∈ below path → c ∈ components path := by
    intro c hc
    rw [components_eq]
    exact List.mem_append_right _ hc
  obtain ⟨names, hnames, hbelow⟩ := exists_names (fun text ht => isName_of_mem_below ht)
    (root_not_mem_below path) (here_not_mem_below path) fun hc => hup (hsub _ hc)
  have hkeep : (below path).filter (· ≠ .here) = names.map .name := by
    rw [hbelow]
    apply List.filter_eq_self.mpr
    intro c hc
    obtain ⟨text, -, rfl⟩ := List.mem_map.mp hc
    rfl
  refine ⟨names, hnames, ?_⟩
  by_cases hroot : package.root = ""
  · -- without a root of its own the package takes the path as it is, a dot in front included
    have hlead : (lead path).filter (· ≠ .here) = [] := by
      unfold lead
      rw [habs, if_neg Bool.false_ne_true]
      split <;> rfl
    rw [hroot, join_empty, components_eq, List.filter_append, hlead, hkeep]
    rfl
  · rw [components_join hroot habs, List.filter_append, hkeep]

/-- A canonical path is looked up at its names below the root. -/
theorem fullPath?_intercalate (package : DirectoryPackage) {names : List String}
    (h : ∀ n ∈ names, IsName n) :
    ∃ full, package.fullPath? (String.intercalate "/" names) = some full ∧
      components full = components package.root ++ names.map .name := by
  have hcomponents := components_intercalate h
  have hup : Component.up ∉ components (String.intercalate "/" names) := by
    rw [hcomponents]
    simp
  have habs : isAbsolute (String.intercalate "/" names) = false :=
    IsCanonical.not_isAbsolute ⟨names, h, rfl⟩
  refine ⟨_, (package.fullPath?_eq_some_iff _ _).mpr ⟨habs, hup, rfl⟩, ?_⟩
  by_cases hroot : package.root = ""
  · rw [hroot, join_empty, hcomponents]
    rfl
  · rw [components_join hroot habs, below_intercalate h]

/-! ## What is opened -/

/-- What is open when a file or a directory has just been opened: nothing has been read yet. -/
def justOpened : FileNode → OpenNode
  | .file content => ⟨content.length, content⟩
  | .directory => ⟨directorySize, []⟩

/-- The path is not looked up: whatever the directory holds, there is nothing under it. -/
structure Refuses (package : DirectoryPackage) (path : String) : Prop where
  fullPath?_eq : package.fullPath? path = none
  openFile_eq : package.openFile path = (none, package)
  fileExists_eq : package.fileExists path = false

/-- The path is looked up at the place `full`: what is opened, read and found there is what the
directory tree has at this place. -/
structure LooksUp (package : DirectoryPackage) (path full : String) : Prop where
  fullPath?_eq : package.fullPath? path = some full
  opens : ∀ node, package.tree.find full = .ok node →
    package.openFile path = (some ⟨package.nextId⟩,
      { package with
        openNodes := (package.nextId, justOpened node) :: package.openNodes
        nextId := package.nextId + 1 })
  misses : ∀ fault, package.tree.find full = .error fault →
    package.openFile path = (none, package)
  reads : ∀ content now journal, package.tree.find full = .ok (.file content) →
    (operations.readSource path ⟨package, now, journal⟩).1 = Package.sourceOf content content.length
  fileExists_eq : package.fileExists path = package.tree.isFile full

theorem refuses_iff {package : DirectoryPackage} {path : String} :
    Refuses package path ↔ isAbsolute path = true ∨ .up ∈ components path := by
  rw [← fullPath?_eq_none_iff package path]
  refine ⟨fun h => h.fullPath?_eq, fun h => ⟨h, ?_, ?_⟩⟩
  · rw [openFile, h]
  · rw [fileExists, h]

theorem looksUp_iff {package : DirectoryPackage} {path full : String} :
    LooksUp package path full ↔
      isAbsolute path = false ∧ .up ∉ components path ∧ full = join package.root path := by
  rw [← fullPath?_eq_some_iff package path full]
  refine ⟨fun h => h.fullPath?_eq, fun h => ⟨h, ?_, ?_, ?_, ?_⟩⟩
  · intro node hfind
    rw [openFile, h]
    simp only
    rw [hfind]
    cases node <;> rfl
  · intro fault hfind
    rw [openFile, h]
    simp only
    rw [hfind]
  · exact fun content now journal hfind => readSource_file h hfind
  · rw [fileExists, h]

theorem LooksUp.atOrBelow {package : DirectoryPackage} {path full : String}
    (h : LooksUp package path full) : AtOrBelow package.root full :=
  fullPath?_atOrBelow h.fullPath?_eq

/-- Every path is refused or looked up. -/
theorem refuses_or_looksUp (package : DirectoryPackage) (path : String) :
    Refuses package path ∨ LooksUp package path (join package.root path) := by
  rw [refuses_iff, looksUp_iff]
  cases isAbsolute path
  · by_cases hup : .up ∈ components path
    · exact Or.inl (Or.inr hup)
    · exact Or.inr ⟨rfl, hup, rfl⟩
  · exact Or.inl (Or.inl rfl)

/-- The path is looked up at exactly these names below the root. -/
def LeadsTo (package : DirectoryPackage) (path : String) (names : List String) : Prop :=
  ∃ full, LooksUp package path full ∧
    components full = components package.root ++ names.map .name

theorem leadsTo_intercalate (package : DirectoryPackage) {names : List String}
    (h : ∀ n ∈ names, IsName n) : package.LeadsTo (String.intercalate "/" names) names := by
  obtain ⟨full, hfull, hcomponents⟩ := package.fullPath?_intercalate h
  exact ⟨full, looksUp_iff.mpr ((package.fullPath?_eq_some_iff _ full).mp hfull), hcomponents⟩

/-- Two trees have the same at the root and everywhere below it. -/
def AlikeBelow (root : String) (tree other : FileTree) : Prop :=
  ∀ full, AtOrBelow root full → other.find full = tree.find full

/-- What is outside its root makes no difference to what a package opens and finds. -/
theorem openFile_alike {package : DirectoryPackage} {other : FileTree}
    (h : AlikeBelow package.root package.tree other) (path : String) :
    { package with tree := other }.openFile path
        = ((package.openFile path).1, { (package.openFile path).2 with tree := other }) ∧
      { package with tree := other }.fileExists path = package.fileExists path := by
  rcases package.refuses_or_looksUp path with hrefuses | hlooks
  · have hrefuses' : Refuses { package with tree := other } path :=
      refuses_iff.mpr (refuses_iff.mp hrefuses)
    rw [hrefuses.openFile_eq, hrefuses'.openFile_eq, hrefuses.fileExists_eq,
      hrefuses'.fileExists_eq]
    exact ⟨rfl, rfl⟩
  · have hinside := looksUp_iff.mp hlooks
    have hlooks' : LooksUp { package with tree := other } path (join package.root path) :=
      looksUp_iff.mpr hinside
    -- both look at one place, and there the trees are alike
    have hfind := h _ hlooks.atOrBelow
    constructor
    · cases htree : package.tree.find (join package.root path) with
      | error fault =>
        rw [hlooks.misses fault htree, hlooks'.misses fault (hfind.trans htree)]
      | ok node =>
        rw [hlooks.opens node htree, hlooks'.opens node (hfind.trans htree)]
    · rw [hlooks.fileExists_eq, hlooks'.fileExists_eq, FileTree.isFile, hfind]
      rfl

end DirectoryPackage

/-! ## What a compilation opens -/

/-- If the entry tells that a package was asked to open a file, then one with a canonical path. -/
def Entry.OpensCanonical : Entry → Prop
  | fileOpened path _ => Path.IsCanonical path
  | _ => True

namespace Package

variable {σ : Type}

theorem readMissing_opens (package : Package σ) (file : FileHandle) (chunks : List (List UInt8))
    (missing : Nat) (m : Machine σ) :
    m.journal.Grows Entry.OpensCanonical
      (package.readMissing file chunks missing m).2.journal := by
  fun_induction package.readMissing file chunks missing m with
  | case1 => exact .refl _
  | case2 chunks missing m h bytes engine hread m' => exact (Journal.Grows.refl _).push trivial
  | case3 chunks missing m h bytes claimed engine hread m' h' ih =>
    have hfirst : m.journal.Grows Entry.OpensCanonical m'.journal :=
      (Journal.Grows.refl _).push trivial
    exact hfirst.trans ih

/-- Reading a source opens the file with its path and no other. -/
theorem readSource_opens (package : Package σ) {path : String} (hpath : Path.IsCanonical path)
    (m : Machine σ) :
    m.journal.Grows Entry.OpensCanonical (package.readSource path m).2.journal := by
  unfold readSource
  rcases package.openFile m.engine path with ⟨_ | file, engine⟩
  · exact (Journal.Grows.refl _).push hpath
  · simp only
    generalize hsized : Machine.record (Machine.record _ (Entry.fileOpened path true)) _ = sized
    have hopened : m.journal.Grows Entry.OpensCanonical sized.journal := by
      rw [← hsized]
      exact ((Journal.Grows.refl _).push hpath).push trivial
    generalize package.fileSize _ file = size
    have hread := hopened.trans (package.readMissing_opens file [] size sized)
    rcases hcontent : package.readMissing file [] size sized with ⟨content, m'⟩
    rw [hcontent] at hread
    have hclosed : m.journal.Grows Entry.OpensCanonical (m'.journal.push (.fileClosed file)) :=
      hread.push trivial
    cases content with
    | none => exact hclosed
    | some bytes =>
      simp only
      split <;> exact hclosed

theorem includedSource_opens (package : Package σ) (path sectionName : String) (m : Machine σ) :
    m.journal.Grows Entry.OpensCanonical (package.includedSource path sectionName m).2.journal := by
  have hlogged : m.journal.Grows Entry.OpensCanonical
      (m.log (.including (Path.includePath path sectionName) sectionName)).journal :=
    (Journal.Grows.refl _).push trivial
  have hread := hlogged.trans (package.readSource_opens
    (Path.includePath_canonical path sectionName) _)
  unfold includedSource
  rcases hsource : package.readSource (Path.includePath path sectionName)
    (m.log (.including (Path.includePath path sectionName) sectionName)) with ⟨fault | text, m'⟩
  · rw [hsource] at hread
    simp only [hsource]
    exact hread
  · rw [hsource] at hread
    simp only [hsource]
    exact hread

end Package

/-- Whatever a compilation includes, and in whatever sections, it opens canonical paths. -/
theorem Compilation.follow_opens {σ : Type} (package : Package σ) (compilation : Compilation σ)
    (m : Machine σ) :
    m.journal.Grows Entry.OpensCanonical (compilation.follow package m).2.journal := by
  induction compilation generalizing m with
  | failed engine error => exact .refl _
  | compiled engine module => exact (Journal.Grows.refl _).push trivial
  | reported report next ih =>
    have hreported : m.journal.Grows Entry.OpensCanonical (m.record (.reported report)).journal :=
      (Journal.Grows.refl _).push trivial
    exact hreported.trans (ih _)
  | requested engine path sectionName resume ih =>
    have hread := package.includedSource_opens path sectionName { m with engine }
    rcases hsource : package.includedSource path sectionName { m with engine }
      with ⟨source, m'⟩
    rw [hsource] at hread
    rw [follow, hsource]
    exact hread.trans (ih _ _ _)

/-! ## Other files do not matter -/

namespace Package

variable {σ : Type}

/-- The package with another way to open files. -/
def opening (package : Package σ) (ask : σ → String → Option FileHandle × σ) : Package σ :=
  { package with openFile := ask }

/-- The two open the files with canonical paths alike. -/
def OpenAlike (package : Package σ) (ask : σ → String → Option FileHandle × σ) : Prop :=
  ∀ engine path, Path.IsCanonical path → ask engine path = package.openFile engine path

variable {package : Package σ} {ask : σ → String → Option FileHandle × σ}

theorem opening_readMissing (file : FileHandle) (chunks : List (List UInt8)) (missing : Nat)
    (m : Machine σ) :
    (package.opening ask).readMissing file chunks missing m
      = package.readMissing file chunks missing m := by
  fun_induction package.readMissing file chunks missing m with
  | case1 chunks m => rw [readMissing, dif_pos rfl]
  | case2 chunks missing m h bytes engine hread m' =>
    rw [readMissing, dif_neg h]
    simp only [opening, hread, dite_true]
    rfl
  | case3 chunks missing m h bytes claimed engine hread m' h' ih =>
    rw [readMissing, dif_neg h]
    simp only [opening, hread, dif_neg h']
    exact ih

theorem opening_readSource (halike : OpenAlike package ask) {path : String}
    (hpath : Path.IsCanonical path) (m : Machine σ) :
    (package.opening ask).readSource path m = package.readSource path m := by
  have hask : (package.opening ask).openFile m.engine path = package.openFile m.engine path :=
    halike m.engine path hpath
  unfold readSource
  simp only [hask, opening_readMissing]
  rfl

theorem opening_includedSource (halike : OpenAlike package ask) (path sectionName : String)
    (m : Machine σ) :
    (package.opening ask).includedSource path sectionName m
      = package.includedSource path sectionName m := by
  unfold includedSource
  simp only [opening_readSource halike (Path.includePath_canonical path sectionName)]

end Package

/-- How a package opens paths that are not canonical cannot be told from a compilation. -/
theorem Compilation.follow_opening {σ : Type} {package : Package σ}
    {ask : σ → String → Option FileHandle × σ} (halike : package.OpenAlike ask)
    (compilation : Compilation σ) (m : Machine σ) :
    compilation.follow (package.opening ask) m = compilation.follow package m := by
  induction compilation generalizing m with
  | failed | compiled => rfl
  | reported report next ih => exact ih _
  | requested engine path sectionName resume ih =>
    rw [follow, follow, Package.opening_includedSource halike]
    exact ih _ _ _

/-! ## The package is not left -/

namespace Package

open ScriptHost.Path

/-- An include path is names joined by single slashes, steps up beyond the root staying there, and a
package in a directory looks it up at exactly these names below its root.  Of all paths a package
refuses those that are absolute or have a step up, and looks up the others at or below its root, so
that what is elsewhere makes no difference to it.  A compilation, whatever it includes, opens
canonical paths only, which lead to names below the root, and how others would open changes
nothing. -/
theorem includes_confined :
    (∀ path sectionName, ∃ names : List String, (∀ n ∈ names, IsName n) ∧
      includePath path sectionName = String.intercalate "/" names ∧
      components (includePath path sectionName) = names.map .name ∧
      ∀ package : DirectoryPackage, package.LeadsTo (includePath path sectionName) names) ∧
    (∀ path sectionName count, (directoryOf sectionName).length ≤ count →
      includePath (ups count ++ path) sectionName = includePath ("/" ++ path) sectionName) ∧
    (∀ (package : DirectoryPackage) (path : String),
      (package.Refuses path ↔ isAbsolute path = true ∨ .up ∈ components path) ∧
      (∀ full, package.LooksUp path full ↔
        isAbsolute path = false ∧ .up ∉ components path ∧ full = join package.root path) ∧
      (∀ full, package.LooksUp path full → AtOrBelow package.root full) ∧
      ∀ other, DirectoryPackage.AlikeBelow package.root package.tree other →
        { package with tree := other }.openFile path
            = ((package.openFile path).1, { (package.openFile path).2 with tree := other }) ∧
          { package with tree := other }.fileExists path = package.fileExists path) ∧
    ∀ {σ : Type} (package : Package σ) (compilation : Compilation σ) (m : Machine σ),
      (∀ path found,
        .fileOpened path found ∈ m.journal.since (compilation.follow package m).2.journal →
          ∃ names : List String, (∀ n ∈ names, IsName n) ∧ path = String.intercalate "/" names ∧
            ∀ directory : DirectoryPackage, directory.LeadsTo path names) ∧
      ∀ ask, package.OpenAlike ask →
        compilation.follow (package.opening ask) m = compilation.follow package m := by
  refine ⟨?_, ?_, ?_, ?_⟩
  · intro path sectionName
    obtain ⟨names, hnames, heq, hcomponents⟩ := includePath_components path sectionName
    refine ⟨names, hnames, heq, hcomponents, ?_⟩
    intro package
    rw [heq]
    exact package.leadsTo_intercalate hnames
  · exact fun path sectionName count h => includePath_ups path h
  · intro package path
    exact ⟨DirectoryPackage.refuses_iff, fun full => DirectoryPackage.looksUp_iff,
      fun full h => h.atOrBelow, fun other h => DirectoryPackage.openFile_alike h path⟩
  · intro σ package compilation m
    refine ⟨?_, fun ask halike => compilation.follow_opening halike m⟩
    intro path found hmem
    obtain ⟨entries, hentries, hkind⟩ := compilation.follow_opens package m
    rw [Journal.since, hentries, List.drop_left] at hmem
    obtain ⟨names, hnames, rfl⟩ : IsCanonical path := hkind _ hmem
    exact ⟨names, hnames, rfl, fun directory => directory.leadsTo_intercalate hnames⟩

/-- A script in `lib` climbs above the package: what it means stays in it, and whether an absolute
path would open there does not matter.  The package opens the file that is meant, and neither opens
nor finds the one beside its root that is there as well. -/
theorem includes_confined_of_climbing :
    let package : Package Unit :=
      ⟨fun _ _ => false, fun _ _ => (none, ()), fun _ _ => 0, fun _ _ _ => (([], 0), ()),
        fun _ _ => ()⟩
    let ask (_ : Unit) (path : String) : Option FileHandle × Unit :=
      (if isAbsolute path then some ⟨1⟩ else none, ())
    let script : Compilation Unit :=
      .requested () "../../secret" "lib/main.as" fun _ _ => .failed () ⟨"Compile", "no source"⟩
    let m : Machine Unit := ⟨(), ⟨0⟩, .empty⟩
    let tree : FileTree :=
      ⟨[(["srv"], .directory), (["secret"], .file [0x61]), (["srv", "secret"], .file [0x62])], []⟩
    let directory : DirectoryPackage := { root := "/srv", tree }
    includePath "../../secret" "lib/main.as" = includePath "/secret" "lib/main.as" ∧
      AtOrBelow "/srv" "/srv/secret" ∧ IsCanonical "secret" ∧
      script.follow (package.opening ask) m = script.follow package m ∧
      tree.find "/srv/../secret" = .ok (.file [0x61]) ∧
      directory.openFile "../secret" = (none, directory) ∧
      directory.fileExists "../secret" = false ∧
      directory.openFile "secret" = (some ⟨1⟩,
        { directory with openNodes := [(1, ⟨1, [0x62]⟩)], nextId := 2 }) := by
  intro package ask script m tree directory
  obtain ⟨hinclude, hups, hpaths, hcompile⟩ := includes_confined
  have hrefuses : directory.Refuses "../secret" := (hpaths directory "../secret").1.mpr (by decide)
  have hlooks : directory.LooksUp "secret" "/srv/secret" :=
    ((hpaths directory "secret").2.1 "/srv/secret").mpr (by decide)
  have hbelow := (hpaths directory "secret").2.2.1 "/srv/secret" hlooks
  have hopens := hlooks.opens (.file [0x62]) rfl
  refine ⟨hups "secret" "lib/main.as" 2 (by decide), hbelow, ?_, ?_, rfl,
    hrefuses.openFile_eq, hrefuses.fileExists_eq, hopens⟩
  · have hsince : m.journal.since (script.follow package m).2.journal
        = [.logged (.including "secret" "lib/main.as"), .fileOpened "secret" false] := by
      rfl
    obtain ⟨names, hnames, heq, -⟩ := (hcompile package script m).1 "secret" false (by
      rw [hsince]
      exact .tail _ (.head _))
    exact ⟨names, hnames, heq⟩
  · apply (hcompile package script m).2 ask
    intro engine path hpath
    have habs : ¬ isAbsolute path = true := by
      rw [hpath.not_isAbsolute]
      exact Bool.false_ne_true
    exact congrArg (·, ()) (if_neg habs)

end Package

end ScriptHost
