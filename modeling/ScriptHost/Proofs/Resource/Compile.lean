import ScriptHost.Proofs.Journal.History
import ScriptHost.Resource.Start

/-!
# What a compilation records

Reading sources and compiling them moves no reference and asks no script.  Of the life of a resource
it records one thing: a module that has been built, exactly when the compilation gives one.
-/

namespace ScriptHost

variable {σ : Type}

/-! ## Reading sources -/

namespace Package

theorem readMissing_grows (package : Package σ) (file : FileHandle) (chunks : List (List UInt8))
    (missing : Nat) (m : Machine σ) :
    m.journal.Grows Entry.Idle (package.readMissing file chunks missing m).2.journal := by
  fun_induction package.readMissing file chunks missing m with
  | case1 => exact .refl _
  | case2 chunks missing m h bytes engine hread m' =>
    exact (Journal.Grows.refl _).push ⟨⟨trivial, rfl⟩, rfl⟩
  | case3 chunks missing m h bytes claimed engine hread m' h' ih =>
    have hfirst : m.journal.Grows Entry.Idle m'.journal :=
      (Journal.Grows.refl _).push ⟨⟨trivial, rfl⟩, rfl⟩
    exact hfirst.trans ih

/-- Reads an open file to its end, and closes it, whether or not the end has been reached. -/
def readWhole (package : Package σ) (file : FileHandle) (m : Machine σ) :
    Option (List UInt8) × Machine σ :=
  let size := package.fileSize m.engine file
  let (content, m) := package.readMissing file [] size (m.record (.fileSized size))
  (content, { m with engine := package.closeFile m.engine file }.record (.fileClosed file))

theorem readWhole_grows (package : Package σ) (file : FileHandle) (m : Machine σ) :
    m.journal.Grows Entry.Idle (package.readWhole file m).2.journal := by
  have hsized : m.journal.Grows Entry.Idle
      (m.record (.fileSized (package.fileSize m.engine file))).journal :=
    (Journal.Grows.refl _).push ⟨⟨trivial, rfl⟩, rfl⟩
  exact (hsized.trans (package.readMissing_grows file [] _ _)).push ⟨⟨trivial, rfl⟩, rfl⟩

theorem readSource_of_opened (package : Package σ) {path : String} {file : FileHandle}
    {m : Machine σ} {engine : σ} (h : package.openFile m.engine path = (some file, engine)) :
    package.readSource path m
      = match package.readWhole file
          (({ m with engine } : Machine σ).record (.fileOpened path true)) with
        | (none, m) => (.error .endedEarly, m)
        | (some bytes, m) =>
          match String.fromUTF8? ⟨bytes.toArray⟩ with
          | some text => (.ok text, m)
          | none => (.error .notUtf8, m) := by
  unfold readSource readWhole
  rw [h]
  simp only
  generalize package.readMissing file [] _ _ = read
  rcases read with ⟨_ | bytes, m'⟩ <;> rfl

theorem readSource_grows (package : Package σ) (path : String) (m : Machine σ) :
    m.journal.Grows Entry.Idle (package.readSource path m).2.journal := by
  rcases hopen : package.openFile m.engine path with ⟨_ | file, engine⟩
  · unfold readSource
    rw [hopen]
    exact (Journal.Grows.refl _).push ⟨⟨trivial, rfl⟩, rfl⟩
  · have hopened : m.journal.Grows Entry.Idle
        (({ m with engine } : Machine σ).record (.fileOpened path true)).journal :=
      (Journal.Grows.refl _).push ⟨⟨trivial, rfl⟩, rfl⟩
    have hread := hopened.trans (package.readWhole_grows file _)
    rw [package.readSource_of_opened hopen]
    rcases hcontent : package.readWhole file _ with ⟨_ | bytes, m'⟩
    all_goals rw [hcontent] at hread
    · exact hread
    · simp only
      split <;> exact hread

theorem includedSource_grows (package : Package σ) (path sectionName : String) (m : Machine σ) :
    m.journal.Grows Entry.Idle (package.includedSource path sectionName m).2.journal := by
  have hlogged : m.journal.Grows Entry.Idle
      (m.log (.including (Path.includePath path sectionName) sectionName)).journal :=
    (Journal.Grows.refl _).push ⟨⟨trivial, rfl⟩, rfl⟩
  have hread := hlogged.trans (package.readSource_grows (Path.includePath path sectionName) _)
  unfold includedSource
  rcases hsource : package.readSource (Path.includePath path sectionName)
    (m.log (.including (Path.includePath path sectionName) sectionName)) with ⟨fault | text, m'⟩
  · rw [hsource] at hread
    simp only [hsource]
    exact hread
  · rw [hsource] at hread
    simp only [hsource]
    exact hread

end Package

/-! ## Compiling -/

/-- What a compilation, or a stage of it, has to show for itself. -/
def builtMilestones {ε : Type} : Except ε ScriptModule → List Milestone
  | .ok module => [.built module.name]
  | .error _ => []

/-- A compilation records a module when it gives one, and nothing else that counts. -/
structure Compiles {ε : Type} (m : Machine σ) (result : Except ε ScriptModule) (m' : Machine σ) :
    Prop where
  grows : m.journal.Grows Entry.Silent m'.journal
  milestones : m'.journal.viewed Entry.milestone?
    = m.journal.viewed Entry.milestone? ++ builtMilestones result

namespace Compiles

variable {ε : Type} {m m' m'' : Machine σ} {result : Except ε ScriptModule}

theorem of_idle {e : ε} (h : m.journal.Grows Entry.Idle m'.journal) :
    Compiles m (.error e : Except ε ScriptModule) m' := by
  refine ⟨h.mono fun _ he => he.silent, ?_⟩
  rw [h.viewed_eq fun _ he => he.1.2, builtMilestones, List.append_nil]

theorem before (h : m.journal.Grows Entry.Idle m'.journal) (h' : Compiles m' result m'') :
    Compiles m result m'' := by
  constructor
  · exact (h.mono fun _ he => he.silent).trans h'.grows
  · rw [h'.milestones, h.viewed_eq fun _ he => he.1.2]

end Compiles

theorem Compilation.follow_compiles (package : Package σ) (compilation : Compilation σ)
    (m : Machine σ) :
    Compiles m (compilation.follow package m).1 (compilation.follow package m).2 := by
  induction compilation generalizing m with
  | failed engine error => exact .of_idle (.refl _)
  | compiled engine module =>
    constructor
    · exact (Journal.Grows.refl _).push ⟨trivial, rfl⟩
    · exact Journal.viewed_push _ _ _
  | reported report next ih =>
    have hreported : m.journal.Grows Entry.Idle (m.record (.reported report)).journal :=
      (Journal.Grows.refl _).push ⟨⟨trivial, rfl⟩, rfl⟩
    exact (ih _).before hreported
  | requested engine path sectionName resume ih =>
    have hread := package.includedSource_grows path sectionName { m with engine }
    rcases hsource : package.includedSource path sectionName { m with engine }
      with ⟨source, m'⟩
    rw [hsource] at hread
    rw [follow, hsource]
    exact (ih _ _ _).before hread

end ScriptHost
