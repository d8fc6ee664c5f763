import ScriptHost.Package.Directory
import ScriptHost.Proofs.Package.Reading

/-!
# The open files of a package in a directory

Reading a source leaves of the open files all but the one that it opened (`openNodes_readSource`),
so all that were open before, unless one of them had the id that was next
(`openNodes_readSource_eq_iff`).  Ids are numbers of 32 bits, and `Used` counts how many have been
given out: none is given a second time before all have been (`Used.next_not_open`).  After that a
source can take the place of a file that was left open (`source_reading_evicts`).
-/

namespace ScriptHost.DirectoryPackage

open Package (Reads Delivers sourceOf)

variable {package : DirectoryPackage} {path : String} {file : FileHandle}

/-! ## The operations -/

/-- A file is opened under the next id, or nothing changes. -/
theorem openFile_cases (package : DirectoryPackage) (path : String) :
    package.openFile path = (none, package) ∨
      ∃ opened, package.openFile path = (some ⟨package.nextId⟩,
        { package with
          openNodes := (package.nextId, opened) :: package.openNodes
          nextId := package.nextId + 1 }) := by
  unfold openFile
  split
  · exact Or.inl rfl
  · split
    · exact Or.inl rfl
    · exact Or.inr ⟨_, rfl⟩

/-- What a package is after it has opened a file. -/
theorem openFile_some {next : DirectoryPackage}
    (h : package.openFile path = (some file, next)) :
    ∃ opened, next = { package with
      openNodes := (package.nextId, opened) :: package.openNodes
      nextId := package.nextId + 1 } := by
  rcases package.openFile_cases path with hopen | ⟨opened, hopen⟩
  · rw [hopen] at h
    cases h
  · rw [hopen] at h
    obtain ⟨-, hnext⟩ := Prod.mk.inj h
    exact ⟨opened, hnext.symm⟩

/-- Whether a file is opened depends on the directory alone. -/
theorem openFile_isSome (package : DirectoryPackage) (path : String) :
    (package.openFile path).1.isSome
      = (package.fullPath? path).any fun full => (package.tree.find full).isOk := by
  unfold openFile
  cases package.fullPath? path with
  | none => rfl
  | some full =>
    simp only [Option.any_some]
    cases package.tree.find full <;> rfl

theorem openFile_isSome_congr {other : DirectoryPackage} (hroot : other.root = package.root)
    (htree : other.tree = package.tree) :
    (other.openFile path).1.isSome = (package.openFile path).1.isSome := by
  rw [openFile_isSome, openFile_isSome, fullPath?, fullPath?, hroot, htree]

/-- The open files other than one, with what has been read of them. -/
def others (package : DirectoryPackage) (file : FileHandle) : List (UInt32 × OpenNode) :=
  package.openNodes.filter fun (id, _) => id != file.id

theorem readChunk_nextId (package : DirectoryPackage) (file : FileHandle) (room : Nat) :
    (package.readChunk file room).2.nextId = package.nextId := by
  unfold readChunk
  split <;> rfl

/-- A read changes which bytes are unread, never which files are open. -/
theorem readChunk_ids (package : DirectoryPackage) (file : FileHandle) (room : Nat) :
    (package.readChunk file room).2.openNodes.map (·.1) = package.openNodes.map (·.1) := by
  unfold readChunk
  split
  · rfl
  · simp only [List.map_map]
    rfl

/-- A read of one file leaves the others as they are. -/
theorem others_readChunk (package : DirectoryPackage) (file : FileHandle) (room : Nat) :
    (package.readChunk file room).2.others file = package.others file := by
  unfold readChunk
  split
  · rfl
  · simp only [others]
    induction package.openNodes with
    | nil => rfl
    | cons entry rest ih =>
      rcases entry with ⟨id, node⟩
      by_cases hid : id = file.id
      · simp only [List.map_cons, List.filter_cons, hid, bne_self_eq_false, ih]
        rfl
      · simp only [List.map_cons, List.filter_cons, hid, if_false, ih]

/-- A read does not touch the directory. -/
theorem directory_readChunk (package : DirectoryPackage) (file : FileHandle) (room : Nat) :
    (package.readChunk file room).2.root = package.root ∧
      (package.readChunk file room).2.tree = package.tree := by
  unfold readChunk
  split <;> exact ⟨rfl, rfl⟩

/-- What every read of a file keeps holds after any number of them. -/
theorem reads_keep (Keeps : DirectoryPackage → Prop) {reads : List (Nat × Nat)}
    {last : DirectoryPackage} (hreads : Reads operations file package reads last)
    (hstep : ∀ engine room, Keeps engine → Keeps (engine.readChunk file room).2)
    (h : Keeps package) : Keeps last := by
  induction hreads with
  | none engine => exact h
  | @read engine next last room claimed bytes reads first rest ih =>
    have hnext : (engine.readChunk file room).2 = next := congrArg Prod.snd first
    exact ih (hnext ▸ hstep engine room h)

theorem others_reads {reads : List (Nat × Nat)} {last : DirectoryPackage}
    (h : Reads operations file package reads last) : last.others file = package.others file := by
  refine reads_keep (fun engine => engine.others file = package.others file) h ?_ rfl
  intro engine room hbefore
  rw [others_readChunk, hbefore]

theorem directory_reads {reads : List (Nat × Nat)} {last : DirectoryPackage}
    (h : Reads operations file package reads last) :
    last.root = package.root ∧ last.tree = package.tree := by
  refine reads_keep (fun engine => engine.root = package.root ∧ engine.tree = package.tree) h ?_
    ⟨rfl, rfl⟩
  rintro engine room ⟨hroot, htree⟩
  obtain ⟨hroot', htree'⟩ := engine.directory_readChunk file room
  exact ⟨hroot'.trans hroot, htree'.trans htree⟩

/-! ## A source that is read -/

/-- What is left of a package when a source has been read: nothing was opened, or a file was opened,
read and closed. -/
theorem readSource_cases (path : String) (m : Machine DirectoryPackage) :
    (m.engine.openFile path = (none, m.engine) ∧
        (operations.readSource path m).2.engine = m.engine) ∨
      ∃ opened next reads last, m.engine.openFile path = (some ⟨m.engine.nextId⟩, next) ∧
        next = { m.engine with
          openNodes := (m.engine.nextId, opened) :: m.engine.openNodes
          nextId := m.engine.nextId + 1 } ∧
        Reads operations ⟨m.engine.nextId⟩ next reads last ∧
        (operations.readSource path m).2.engine = last.closeFile ⟨m.engine.nextId⟩ := by
  rcases m.engine.openFile_cases path with hopen | ⟨opened, hopen⟩
  · refine Or.inl ⟨hopen, ?_⟩
    rw [Package.readSource_notOpened hopen]
    rfl
  · obtain ⟨reads, last, hreads, -, hclosed, -⟩ :=
      @Package.readSource_reads _ operations _ path m _ hopen
    exact Or.inr ⟨opened, _, reads, last, hopen, rfl, hreads, hclosed⟩

theorem directory_readSource (path : String) (m : Machine DirectoryPackage) :
    (operations.readSource path m).2.engine.root = m.engine.root ∧
      (operations.readSource path m).2.engine.tree = m.engine.tree := by
  rcases readSource_cases path m with ⟨-, heq⟩ | ⟨opened, next, reads, last, -, rfl, hreads, heq⟩
  · rw [heq]
    exact ⟨rfl, rfl⟩
  · obtain ⟨hroot, htree⟩ := directory_reads hreads
    rw [heq]
    exact ⟨hroot, htree⟩

/-- Reading a source leaves no file open, and closes none but those that have the id it was
given. -/
theorem openNodes_readSource (path : String) (m : Machine DirectoryPackage) :
    (operations.readSource path m).2.engine.openNodes
      = if (m.engine.openFile path).1.isSome then m.engine.others ⟨m.engine.nextId⟩
        else m.engine.openNodes := by
  rcases readSource_cases path m
    with ⟨hopen, heq⟩ | ⟨opened, next, reads, last, hopen, hnext, hreads, heq⟩
  · rw [heq, hopen]
    rfl
  · rw [heq, hopen]
    -- what was put in front by the opening is what the closing takes out
    show last.others ⟨m.engine.nextId⟩ = m.engine.others ⟨m.engine.nextId⟩
    rw [others_reads hreads, hnext]
    simp [others]

/-- The open files are the same afterwards exactly if none was opened, or none of them had the id
that was next. -/
theorem openNodes_readSource_eq_iff {path : String} {m : Machine DirectoryPackage} :
    (operations.readSource path m).2.engine.openNodes = m.engine.openNodes
      ↔ (m.engine.openFile path).1 = none ∨ m.engine.nextId ∉ m.engine.openNodes.map (·.1) := by
  rw [openNodes_readSource]
  cases (m.engine.openFile path).1 with
  | none => exact iff_of_true rfl (Or.inl rfl)
  | some file =>
    have hothers : m.engine.others ⟨m.engine.nextId⟩ = m.engine.openNodes
        ↔ m.engine.nextId ∉ m.engine.openNodes.map (·.1) := by
      rw [others, List.filter_eq_self]
      constructor
      · intro hne hmem
        obtain ⟨entry, hentry, hid⟩ := List.mem_map.mp hmem
        exact bne_iff_ne.mp (hne entry hentry) hid
      · intro hnew entry hentry
        have hne : entry.1 ≠ m.engine.nextId := fun e => hnew (e ▸ List.mem_map_of_mem hentry)
        exact bne_iff_ne.mpr hne
    simpa using hothers

/-! ## Ids -/

/-- The package has been used and `count` files have been opened.  What the directory holds may
change at any time. -/
inductive Used : Nat → DirectoryPackage → Prop
  | fresh (root : String) (tree : FileTree) : Used 0 { root, tree }
  | opened {count : Nat} {package next : DirectoryPackage} {path : String} {file : FileHandle}
      (before : Used count package) (given : package.openFile path = (some file, next)) :
      Used (count + 1) next
  | read {count : Nat} {package : DirectoryPackage} (before : Used count package)
      (file : FileHandle) (room : Nat) : Used count (package.readChunk file room).2
  | closed {count : Nat} {package : DirectoryPackage} (before : Used count package)
      (file : FileHandle) : Used count (package.closeFile file)
  | changed {count : Nat} {package : DirectoryPackage} (before : Used count package)
      (tree : FileTree) : Used count { package with tree }

namespace Used

variable {count : Nat}

theorem nextId_eq (h : Used count package) : package.nextId = UInt32.ofNat (count + 1) := by
  induction h with
  | fresh => rfl
  | @opened count package next path file before given ih =>
    obtain ⟨node, rfl⟩ := openFile_some given
    show package.nextId + 1 = _
    rw [ih, UInt32.ofNat_add (count + 1) 1]
    rfl
  | read before file room ih => rw [readChunk_nextId, ih]
  | closed before file ih => exact ih
  | changed before tree ih => exact ih

/-- The id of an open file is that of the count at which it was opened. -/
theorem ids_eq (h : Used count package) {id : UInt32} (hid : id ∈ package.openNodes.map (·.1)) :
    ∃ number, 0 < number ∧ number ≤ count ∧ id = UInt32.ofNat number := by
  induction h with
  | fresh => cases hid
  | @opened count package next path file before given ih =>
    obtain ⟨node, rfl⟩ := openFile_some given
    rcases List.mem_cons.mp hid with rfl | hold
    · exact ⟨count + 1, Nat.succ_pos _, Nat.le_refl _, before.nextId_eq⟩
    · obtain ⟨number, hpos, hle, heq⟩ := ih hold
      exact ⟨number, hpos, Nat.le_succ_of_le hle, heq⟩
  | read before file room ih =>
    rw [readChunk_ids] at hid
    exact ih hid
  | closed before file ih => exact ih ((List.filter_sublist.map _).subset hid)
  | changed before tree ih => exact ih hid

/-- The next id is new until all have been given out. -/
theorem next_not_open (h : Used count package) (hcount : count < UInt32.size) :
    package.nextId ∉ package.openNodes.map (·.1) := by
  intro hopen
  -- two counts with one id are a multiple of all ids apart
  obtain ⟨number, hpos, hle, heq⟩ := h.ids_eq hopen
  rw [h.nextId_eq] at heq
  have hmod : (count + 1) % UInt32.size = number % UInt32.size := congrArg UInt32.toNat heq
  have hsize : UInt32.size = 4294967296 := rfl
  rw [hsize] at hmod hcount
  omega

theorem reads {reads : List (Nat × Nat)} {last : DirectoryPackage} (h : Used count package)
    (hreads : Reads operations file package reads last) : Used count last :=
  reads_keep (Used count) hreads (fun _ room hbefore => hbefore.read file room) h

/-- A source that is read takes one id. -/
theorem readSource {m : Machine DirectoryPackage} (h : Used count m.engine) {path : String}
    (hopens : (m.engine.openFile path).1.isSome = true) :
    Used (count + 1) (operations.readSource path m).2.engine := by
  rcases readSource_cases path m
    with ⟨hopen, -⟩ | ⟨opened, next, reads, last, hopen, -, hreads, heq⟩
  · rw [hopen] at hopens
    cases hopens
  · rw [heq]
    exact ((h.opened hopen).reads hreads).closed _

end Used

/-! ## The bytes of a file -/

/-- What is found under an id after a read of it. -/
theorem openNode?_readChunk {node : OpenNode} (h : package.openNode? file = some node)
    (room : Nat) :
    (package.readChunk file room).2.openNode? file
      = some { node with unread := node.unread.drop room } := by
  rw [readChunk, h]
  simp only
  unfold openNode? at h ⊢
  -- the first entry with the id is the one that is found, before the read and after it
  revert h
  induction package.openNodes with
  | nil => exact fun h => nomatch h
  | cons entry rest ih =>
    intro h
    rcases entry with ⟨id, other⟩
    by_cases hid : id = file.id
    · simp [hid]
    · simp only [List.map_cons, List.find?_cons, hid, decide_false] at h ⊢
      exact ih h

/-- An open file delivers what has not been read of it. -/
theorem delivers_unread {node : OpenNode} (h : package.openNode? file = some node) :
    Delivers operations file package node.unread := by
  refine ⟨fun package left =>
    ∃ node, package.openNode? file = some node ∧ node.unread = left, ⟨node, h, rfl⟩, ?_⟩
  rintro package left room ⟨node, hnode, rfl⟩ hroom
  refine ⟨node.unread.take room, node.unread.drop room, _, ?_, (List.take_append_drop _ _).symm,
    List.length_take_le _ _, ?_, _, openNode?_readChunk hnode room, rfl⟩
  · show package.readChunk file room = _
    rw [readChunk, hnode]
  · intro hnone
    rcases List.take_eq_nil_iff.mp hnone with hzero | hempty
    · omega
    · exact hempty

/-- A file of the directory is read to its end, whatever else is open. -/
theorem readSource_file {m : Machine DirectoryPackage} {full : String} {content : List UInt8}
    (hpath : m.engine.fullPath? path = some full)
    (hfind : m.engine.tree.find full = .ok (.file content)) :
    (operations.readSource path m).1 = sourceOf content content.length := by
  have hopen : m.engine.openFile path = (some ⟨m.engine.nextId⟩,
      { m.engine with
        openNodes := (m.engine.nextId, ⟨content.length, content⟩) :: m.engine.openNodes
        nextId := m.engine.nextId + 1 }) := by
    rw [openFile, hpath]
    simp only
    rw [hfind]
  generalize hafter : DirectoryPackage.mk _ _ _ _ = after at hopen
  have hnode : after.openNode? ⟨m.engine.nextId⟩ = some ⟨content.length, content⟩ := by
    rw [← hafter]
    simp [openNode?]
  have hsize : after.fileSize ⟨m.engine.nextId⟩ = content.length := by
    rw [fileSize, hnode]
  rw [@Package.readSource_delivered _ operations _ path m _ _ hopen (delivers_unread hnode)]
  exact congrArg (sourceOf content) hsize

end ScriptHost.DirectoryPackage

/-! ## Reading a source -/

namespace ScriptHost

namespace Package

variable {σ : Type}

/-- A source that cannot be opened is not closed either.  One that can is read, at most as many
times as it is told to have bytes, and closed, once; of a file that is delivered, piece by piece,
the result is the text of its first bytes.  A package in a directory reads its files to their ends.
It has the same files open afterwards as before, with the same bytes unread, exactly if the source
was not opened or its id was not that of an open file; so it is until the package has given out all
its ids, and whenever it has none open. -/
theorem source_reading (package : Package σ) (path : String) (m : Machine σ)
    (directory : Machine DirectoryPackage) :
    (∀ engine, package.openFile m.engine path = (none, engine) →
      package.readSource path m
        = (.error .notOpened, ({ m with engine } : Machine σ).record (.fileOpened path false))) ∧
    (∀ file engine, package.openFile m.engine path = (some file, engine) →
      (∃ reads last, Reads package file engine reads last ∧
        reads.length ≤ package.fileSize engine file ∧
        (package.readSource path m).2.engine = package.closeFile last file ∧
        m.journal.since (package.readSource path m).2.journal
          = .fileOpened path true :: .fileSized (package.fileSize engine file)
              :: readEntries reads ++ [.fileClosed file]) ∧
      ∀ content, Delivers package file engine content →
        (package.readSource path m).1 = sourceOf content (package.fileSize engine file)) ∧
    (∀ full content, directory.engine.fullPath? path = some full →
      directory.engine.tree.find full = .ok (.file content) →
      (DirectoryPackage.operations.readSource path directory).1
        = sourceOf content content.length) ∧
    ((DirectoryPackage.operations.readSource path directory).2.engine.openNodes
        = directory.engine.openNodes
      ↔ (directory.engine.openFile path).1 = none ∨
        directory.engine.nextId ∉ directory.engine.openNodes.map (·.1)) ∧
    ∀ opened, DirectoryPackage.Used opened directory.engine →
      opened < UInt32.size ∨ directory.engine.openNodes = [] →
      (DirectoryPackage.operations.readSource path directory).2.engine.openNodes
        = directory.engine.openNodes := by
  refine ⟨fun engine => readSource_notOpened, ?_, ?_,
    DirectoryPackage.openNodes_readSource_eq_iff, ?_⟩
  · intro file engine hopen
    exact ⟨readSource_reads hopen, fun content => readSource_delivered hopen⟩
  · exact fun full content hpath hfind => DirectoryPackage.readSource_file hpath hfind
  · rintro opened hused hroom
    apply DirectoryPackage.openNodes_readSource_eq_iff.mpr
    rcases hroom with hroom | hnone
    · exact Or.inr (hused.next_not_open hroom)
    · rw [hnone]
      exact Or.inr List.not_mem_nil

/-- A package with one file, of which it tells a size and delivers one byte at a time. -/
def trickling (size : Nat) : Package (List UInt8) where
  fileExists _ path := path != ""
  openFile left path := (if path = "" then none else some ⟨1⟩, left)
  fileSize _ _ := size
  readChunk left _ _ := ((left.take 1, (left.take 1).length), left.drop 1)
  closeFile left _ := left

theorem trickling_delivers (size : Nat) (file : FileHandle) (content : List UInt8) :
    Delivers (trickling size) file content content := by
  refine ⟨fun engine left => engine = left, rfl, ?_⟩
  rintro engine _ room rfl hroom
  refine ⟨engine.take 1, engine.drop 1, _, rfl, (List.take_append_drop 1 engine).symm, ?_, ?_, rfl⟩
  · exact Nat.le_trans (List.length_take_le 1 engine) hroom
  · intro hnone
    rcases List.take_eq_nil_iff.mp hnone with hzero | hempty
    · cases hzero
    · exact hempty

end Package

namespace DirectoryPackage

/-- A directory with two files, of which the first has been opened. -/
def firstOpen : Machine DirectoryPackage :=
  let tree : FileTree := ⟨[(["a"], .file [0x61]), (["b"], .file [0x62])], []⟩
  ⟨(({ root := "", tree } : DirectoryPackage).openFile "a").2, ⟨0⟩, .empty⟩

theorem firstOpen_used : Used 1 firstOpen.engine :=
  @Used.opened 0 _ _ "a" ⟨1⟩ (.fresh "" _) (Prod.ext (by decide) rfl)

theorem firstOpen_openNodes : firstOpen.engine.openNodes = [(1, ⟨1, [0x61]⟩)] := by decide

end DirectoryPackage

namespace Package

/-- A letter of two bytes comes in two reads, and the byte after the size told is not asked for.
A directory in which a file has been left open keeps it open. -/
theorem source_reading_trickled :
    let m : Machine (List UInt8) := ⟨[0xC3, 0xA9, 0x21, 0xFF], ⟨0⟩, .empty⟩
    let directory := DirectoryPackage.firstOpen
    ((trickling 3).readSource "greet" m).1 = .ok "é!" ∧
      (trickling 3).readSource "" m
        = (.error .notOpened, m.record (.fileOpened "" false)) ∧
      DirectoryPackage.Used 1 directory.engine ∧
      (DirectoryPackage.operations.readSource "b" directory).1 = .ok "b" ∧
      (DirectoryPackage.operations.readSource "b" directory).2.engine.openNodes
        = [(1, ⟨1, [0x61]⟩)] := by
  intro m directory
  have hdelivers : Delivers (trickling 3) ⟨1⟩ m.engine m.engine := trickling_delivers 3 ⟨1⟩ _
  have htext : sourceOf m.engine 3 = .ok "é!" := sourceOf_eq_ok_iff.mpr ⟨by decide, by decide⟩
  obtain ⟨-, -, hfile, -, hkept⟩ := source_reading (trickling 3) "b" m directory
  refine ⟨?_, ?_, DirectoryPackage.firstOpen_used, ?_, ?_⟩
  · rw [((source_reading (trickling 3) "greet" m directory).2.1 ⟨1⟩ m.engine rfl).2 _ hdelivers]
    exact htext
  · exact (source_reading (trickling 3) "" m directory).1 m.engine rfl
  · rw [hfile "b" [0x62] (by decide) rfl]
    exact sourceOf_eq_ok_iff.mpr ⟨by decide, by decide⟩
  · rw [hkept 1 DirectoryPackage.firstOpen_used (Or.inl (by decide))]
    exact DirectoryPackage.firstOpen_openNodes

end Package

/-! ## A file that is left open -/

namespace DirectoryPackage

variable {path : String}

/-- Reads a source again and again. -/
def rereads (path : String) : Nat → Machine DirectoryPackage → Machine DirectoryPackage
  | 0, m => m
  | count + 1, m => (operations.readSource path (rereads path count m)).2

/-- As long as there are new ids, sources are read with everything else left as it is. -/
theorem rereads_spec {before : Nat} {m : Machine DirectoryPackage}
    (hused : Used before m.engine) (hopens : (m.engine.openFile path).1.isSome = true)
    (count : Nat) (hroom : before + count ≤ UInt32.size) :
    Used (before + count) (rereads path count m).engine ∧
      (rereads path count m).engine.root = m.engine.root ∧
      (rereads path count m).engine.tree = m.engine.tree ∧
      (rereads path count m).engine.openNodes = m.engine.openNodes := by
  induction count with
  | zero => exact ⟨hused, rfl, rfl, rfl⟩
  | succ count ih =>
    obtain ⟨hused', hroot, htree, hkept⟩ := ih (Nat.le_of_succ_le hroom)
    obtain ⟨hroot', htree'⟩ := directory_readSource path (rereads path count m)
    -- the directory is as it was, so the file opens again, and under an id that is new
    have hopens' := (openFile_isSome_congr hroot htree).trans hopens
    have hkept' : (rereads path (count + 1) m).engine.openNodes
        = (rereads path count m).engine.openNodes :=
      openNodes_readSource_eq_iff.mpr (Or.inr (hused'.next_not_open hroom))
    exact ⟨hused'.readSource hopens', hroot'.trans hroot, htree'.trans htree,
      hkept'.trans hkept⟩

/-- The first file that was opened is left open, and then sources are read until all ids have been
given out: the next source gets the id of the first file, which is closed with it. -/
theorem rereads_evicts {m : Machine DirectoryPackage} {node : OpenNode}
    (hused : Used 1 m.engine) (hfirst : m.engine.openNodes = [(1, node)])
    (hopens : (m.engine.openFile path).1.isSome = true) {count : Nat}
    (hcount : 1 + count = UInt32.size) :
    Used UInt32.size (rereads path count m).engine ∧
      (rereads path count m).engine.openNodes = [(1, node)] ∧
      (operations.readSource path (rereads path count m)).2.engine.openNodes = [] := by
  obtain ⟨hused', hroot, htree, hkept⟩ :=
    rereads_spec hused hopens count (Nat.le_of_eq hcount)
  rw [hcount] at hused'
  -- the counter has gone round, and stands at the id of the first file
  have hnext : (rereads path count m).engine.nextId = 1 := hused'.nextId_eq.trans (by decide)
  have hopens' := (openFile_isSome_congr hroot htree).trans hopens
  refine ⟨hused', hkept.trans hfirst, ?_⟩
  rw [openNodes_readSource, if_pos hopens', others, hkept, hfirst, hnext]
  rfl

end DirectoryPackage

namespace Package

open DirectoryPackage

/-- The first of two files is left open, and the other is read until all ids have been given out.
Reading it once more leaves no file open. -/
theorem source_reading_evicts :
    let directory := rereads "b" (UInt32.size - 1) firstOpen
    Used UInt32.size directory.engine ∧
      directory.engine.openNodes = [(1, ⟨1, [0x61]⟩)] ∧
      (operations.readSource "b" directory).2.engine.openNodes = [] := by
  have hopens : (firstOpen.engine.openFile "b").1.isSome = true := by decide
  exact rereads_evicts firstOpen_used firstOpen_openNodes hopens (by decide)

end Package

end ScriptHost
