import ScriptHost.Event.Descriptor
import ScriptHost.Proofs.Isolation.Tenancy
import ScriptHost.Proofs.Journal.History
import ScriptHost.Resource.Start

/-!
# Two machines that one resource cannot tell apart

The same operation on a resource is followed in two runs, which begin at an `Outset`.
`Tenancy.MachinesAgree` relates what the machines have become in the meantime: the resource still
cannot tell the states of the interpreter apart, no other resource has seen anything, the clocks
show the same and so do the journals, except for the numbers of files.  Reading sources, compiling
and marshaling keep to it.
-/

namespace ScriptHost

variable {σ : Type}

/-! ## Journals -/

/-- The entry without the number that an open file happens to have. -/
def Entry.unnumbered : Entry → Entry
  | fileClosed _ => fileClosed ⟨0⟩
  | entry => entry

/-- Two journals have grown by the same, apart from the numbers of files. -/
def Journal.GrownAlike (base base' journal journal' : Journal) : Prop :=
  ∃ added added', journal.toList = base.toList ++ added ∧ journal'.toList = base'.toList ++ added' ∧
    added.map Entry.unnumbered = added'.map Entry.unnumbered

namespace Journal.GrownAlike

variable {base base' journal journal' : Journal}

theorem refl (base base' : Journal) : GrownAlike base base' base base' :=
  ⟨[], [], by simp, by simp, rfl⟩

theorem append (h : GrownAlike base base' journal journal') {entries entries' : List Entry}
    (heq : entries.map Entry.unnumbered = entries'.map Entry.unnumbered) :
    GrownAlike base base' (journal.append entries) (journal'.append entries') := by
  rcases h with ⟨added, added', hadded, hadded', hsame⟩
  refine ⟨added ++ entries, added' ++ entries', ?_, ?_, ?_⟩
  · rw [toList_append, hadded, List.append_assoc]
  · rw [toList_append, hadded', List.append_assoc]
  · rw [List.map_append, List.map_append, hsame, heq]

theorem push (h : GrownAlike base base' journal journal') {entry entry' : Entry}
    (heq : entry.unnumbered = entry'.unnumbered) :
    GrownAlike base base' (journal.push entry) (journal'.push entry') := by
  rcases h with ⟨added, added', hadded, hadded', hsame⟩
  refine ⟨added ++ [entry], added' ++ [entry'], ?_, ?_, ?_⟩
  · rw [toList_push, hadded, List.append_assoc]
  · rw [toList_push, hadded', List.append_assoc]
  · simp [hsame, heq]

theorem since_eq (h : GrownAlike base base' journal journal') :
    (base.since journal).map Entry.unnumbered = (base'.since journal').map Entry.unnumbered := by
  rcases h with ⟨added, added', hadded, hadded', hsame⟩
  rw [since, since, hadded, hadded', List.drop_left, List.drop_left, hsame]

end Journal.GrownAlike

/-! ## Answers -/

/-- The same answer, with states in a relation. -/
def SameAnswer {α β : Type} (related : α → α → Prop) (x x' : β × α) : Prop :=
  ∃ answer s s', x = (answer, s) ∧ x' = (answer, s') ∧ related s s'

namespace SameAnswer

variable {α β γ : Type} {related : α → α → Prop} {x x' : β × α}

theorem intro (answer : β) {s s' : α} (h : related s s') :
    SameAnswer related (answer, s) (answer, s') :=
  ⟨answer, s, s', rfl, rfl, h⟩

theorem states (h : SameAnswer related x x') : related x.2 x'.2 := by
  rcases h with ⟨answer, s, s', rfl, rfl, h⟩
  exact h

theorem map (h : SameAnswer related x x') (f : β → γ) :
    SameAnswer related (f x.1, x.2) (f x'.1, x'.2) := by
  rcases h with ⟨answer, s, s', rfl, rfl, h⟩
  exact intro _ h

end SameAnswer

/-! ## Machines -/

/-- Where two runs of an operation begin: a machine and a hand for each. -/
structure Outset (σ : Type) where
  machine : Machine σ
  machine' : Machine σ
  hand : Hand
  hand' : Hand

namespace Tenancy

/-- What two machines have become since two runs began, with what is now in the hands of the
resource in a slot. -/
structure MachinesAgree (T : Tenancy σ) (slot : String) (o : Outset σ) (hand hand' : Hand)
    (m m' : Machine σ) : Prop where
  alike : T.Alike slot ⟨m.engine, hand⟩ ⟨m'.engine, hand'⟩
  unseen : T.Unseen slot ⟨o.machine.engine, o.hand⟩ ⟨m.engine, hand⟩
  unseen' : T.Unseen slot ⟨o.machine'.engine, o.hand'⟩ ⟨m'.engine, hand'⟩
  now : m.now = m'.now
  journal : Journal.GrownAlike o.machine.journal o.machine'.journal m.journal m'.journal

variable {T : Tenancy σ} {interpreter : Interpreter σ} {slot : String} {o : Outset σ}
  {hand hand' : Hand} {m m' : Machine σ}

namespace MachinesAgree

theorem refl (halike : T.Alike slot ⟨m.engine, hand⟩ ⟨m'.engine, hand'⟩) (hnow : m.now = m'.now) :
    T.MachinesAgree slot ⟨m, m', hand, hand'⟩ hand hand' m m' :=
  ⟨halike, .refl _, .refl _, hnow, .refl _ _⟩

theorem recordAll (h : T.MachinesAgree slot o hand hand' m m') (entries : List Entry) :
    T.MachinesAgree slot o hand hand' (m.recordAll entries) (m'.recordAll entries) :=
  { h with journal := h.journal.append rfl }

theorem record_of_eq (h : T.MachinesAgree slot o hand hand' m m') {entry entry' : Entry}
    (heq : entry.unnumbered = entry'.unnumbered) :
    T.MachinesAgree slot o hand hand' (m.record entry) (m'.record entry') :=
  { h with journal := h.journal.push heq }

theorem record (h : T.MachinesAgree slot o hand hand' m m') (entry : Entry) :
    T.MachinesAgree slot o hand hand' (m.record entry) (m'.record entry) :=
  h.record_of_eq rfl

theorem log (h : T.MachinesAgree slot o hand hand' m m') (notice : Notice) :
    T.MachinesAgree slot o hand hand' (m.log notice) (m'.log notice) :=
  h.record _

theorem shift (h : T.MachinesAgree slot o hand hand' m m') (offset : Int) :
    T.MachinesAgree slot o hand hand' { m with now := m.now.shift offset }
      { m' with now := m'.now.shift offset } :=
  { h with now := congrArg (Instant.shift · offset) h.now }

/-- Whatever moves the states of the interpreter moves the machines. -/
theorem move (h : T.MachinesAgree slot o hand hand' m m') {engine engine' : σ} {held held' : Hand}
    (hmoved : T.Moved slot ⟨m.engine, hand⟩ ⟨m'.engine, hand'⟩ ⟨engine, held⟩ ⟨engine', held'⟩) :
    T.MachinesAgree slot o held held' { m with engine } { m' with engine := engine' } :=
  { h with
    alike := hmoved.alike
    unseen := h.unseen.trans hmoved.unseen
    unseen' := h.unseen'.trans hmoved.unseen' }

/-- An operation of the interpreter gives the same answer on both machines. -/
theorem answer (h : T.MachinesAgree slot o hand hand' m m') {α : Type} {held : α → Hand → Hand}
    {x x' : α × σ}
    (hx : T.Answers slot ⟨m.engine, hand⟩ ⟨m'.engine, hand'⟩ held x x') :
    ∃ answer engine engine', x = (answer, engine) ∧ x' = (answer, engine') ∧
      T.MachinesAgree slot o (held answer hand) (held answer hand') { m with engine }
        { m' with engine := engine' } := by
  rcases x with ⟨answer, engine⟩
  rcases x' with ⟨answer', engine'⟩
  obtain ⟨rfl, hmoved⟩ := hx
  exact ⟨_, _, _, rfl, rfl, h.move hmoved⟩

end MachinesAgree

/-! ## Reading sources -/

theorem readMissing_agree (hT : T.Isolated interpreter) {file file' : FileHandle}
    (hfile : hand.file? = some file) (hfile' : hand'.file? = some file')
    (chunks : List (List UInt8)) (missing : Nat) (h : T.MachinesAgree slot o hand hand' m m') :
    SameAnswer (T.MachinesAgree slot o hand hand')
      ((T.package slot).readMissing file chunks missing m)
      ((T.package slot).readMissing file' chunks missing m') := by
  induction missing using Nat.strongRecOn generalizing chunks m m' with
  | ind missing ih =>
    rw [Package.readMissing, Package.readMissing]
    by_cases hmissing : missing = 0
    · rw [dif_pos hmissing, dif_pos hmissing]
      exact .intro _ h
    · rw [dif_neg hmissing, dif_neg hmissing]
      rcases h.answer ((hT h.alike).readChunk hfile hfile' missing)
        with ⟨⟨bytes, claimed⟩, engine, engine', hx, hx', h⟩
      rw [hx, hx']
      have hread := h.record (.fileRead missing claimed)
      by_cases hclaimed : claimed = 0
      · simp only [dif_pos hclaimed]
        exact .intro _ hread
      · simp only [dif_neg hclaimed]
        -- a chunk that is not empty leaves less to read
        exact ih _ (by omega) _ hread

/-- The file that is opened is closed, whatever was read. -/
theorem readSource_agree (hT : T.Isolated interpreter) (hfile : hand.file? = none)
    (hfile' : hand'.file? = none) (path : String) (h : T.MachinesAgree slot o hand hand' m m') :
    SameAnswer (T.MachinesAgree slot o hand hand') ((T.package slot).readSource path m)
      ((T.package slot).readSource path m') := by
  have hhand : { hand with file? := none } = hand := by rw [← hfile]
  have hhand' : { hand' with file? := none } = hand' := by rw [← hfile']
  rcases (hT h.alike).openFile hfile hfile' path
    with ⟨file, file', engine, engine', hx, hx', hsome, hmoved⟩
  have hopened := h.move hmoved
  rw [Package.readSource, Package.readSource, hx, hx']
  cases file with
  | none =>
    cases file' with
    | some file' => cases hsome
    | none =>
      rw [hhand, hhand'] at hopened
      exact .intro _ (hopened.record _)
  | some file =>
    cases file' with
    | none => cases hsome
    | some file' =>
      have hopened := hopened.record (.fileOpened path true)
      have hsize := (hT hopened.alike).fileSize rfl rfl
      simp only
      rw [hsize]
      rcases readMissing_agree hT rfl rfl [] _ (hopened.record (.fileSized _))
        with ⟨content, m₁, m₁', hread, hread', h₁⟩
      rw [hread, hread']
      have hclosed := h₁.move ((hT h₁.alike).closeFile rfl rfl)
      rw [hhand, hhand'] at hclosed
      -- the two files may have different numbers, which is all that the entries differ in
      have hunnumbered : (Entry.fileClosed file).unnumbered = (Entry.fileClosed file').unnumbered :=
        rfl
      have hclosed := hclosed.record_of_eq hunnumbered
      cases content with
      | none => exact .intro _ hclosed
      | some bytes =>
        simp only
        split <;> exact .intro _ hclosed

theorem includedSource_agree (hT : T.Isolated interpreter) (hfile : hand.file? = none)
    (hfile' : hand'.file? = none) (path sectionName : String)
    (h : T.MachinesAgree slot o hand hand' m m') :
    SameAnswer (T.MachinesAgree slot o hand hand')
      ((T.package slot).includedSource path sectionName m)
      ((T.package slot).includedSource path sectionName m') := by
  have hlogged := h.log (.including (Path.includePath path sectionName) sectionName)
  rcases readSource_agree hT hfile hfile' (Path.includePath path sectionName) hlogged
    with ⟨source, m₁, m₁', hread, hread', h₁⟩
  rw [Package.includedSource, Package.includedSource]
  cases source <;>
    · simp only [hread, hread']
      exact .intro _ h₁

/-! ## Compiling -/

/-- What is in the hand after a compilation that began with `hand`. -/
def heldAfterBuild {ε : Type} (result : Except ε ScriptModule) (hand : Hand) : Hand :=
  match result with
  | .ok module => { hand with drafting := false, module? := some module }
  | .error _ => { hand with drafting := false }

/-- A compilation has given the same in two runs, and what it gave is of the resource. -/
def Compiled {ε : Type} (T : Tenancy σ) (slot : String) (o : Outset σ) (hand hand' : Hand)
    (x x' : Except ε ScriptModule × Machine σ) : Prop :=
  ∃ result m m', x = (result, m) ∧ x' = (result, m') ∧
    T.MachinesAgree slot o (heldAfterBuild result hand) (heldAfterBuild result hand') m m' ∧
    ∀ module, result = .ok module → T.OwnsModule slot module

theorem follow_compilation_agree (hT : T.Isolated interpreter) (hfile : hand.file? = none)
    (hfile' : hand'.file? = none) {engine engine' : σ} {compilation compilation' : Compilation σ}
    (habreast : Compilation.Abreast T slot hand hand' engine engine' compilation compilation')
    (hengine : m.engine = engine) (hengine' : m'.engine = engine')
    (h : T.MachinesAgree slot o hand hand' m m') :
    T.Compiled slot o hand hand' (compilation.follow (T.package slot) m)
      (compilation'.follow (T.package slot) m') := by
  induction habreast generalizing m m' with
  | failed error hmoved =>
    subst hengine hengine'
    exact ⟨_, _, _, rfl, rfl, h.move hmoved, nofun⟩
  | compiled module howns hmoved =>
    subst hengine hengine'
    refine ⟨.ok module, _, _, rfl, rfl, (h.move hmoved).record _, ?_⟩
    rintro _ ⟨⟩
    exact howns
  | reported report _ ih => exact ih hengine hengine' (h.record (.reported report))
  | requested path sectionName hmoved _ ih =>
    subst hengine hengine'
    rcases includedSource_agree hT hfile hfile' path sectionName (h.move hmoved)
      with ⟨source, m₁, m₁', hread, hread', h₁⟩
    rw [Compilation.follow, Compilation.follow, hread, hread']
    exact ih _ _ source h₁.alike rfl rfl h₁

theorem compile_agree (hT : T.Isolated interpreter) {r : Resource σ} (hname : r.name = T.name slot)
    (hpackage : r.package = T.package slot) (source : String)
    (h : T.MachinesAgree slot o {} {} m m') :
    T.Compiled slot o {} {} (r.compile interpreter source m) (r.compile interpreter source m') := by
  unfold Resource.compile
  rw [hname, hpackage]
  rcases h.answer ((hT h.alike).startModule rfl rfl) with ⟨begun, engine, engine', hx, hx', h₁⟩
  rw [hx, hx']
  rcases begun with e | ⟨⟩
  · exact ⟨_, _, _, rfl, rfl, h₁, nofun⟩
  · rcases h₁.answer ((hT h₁.alike).addSection rfl rfl r.main source)
      with ⟨added, engine, engine', hx, hx', h₂⟩
    simp only
    rw [hx, hx']
    rcases added with e | ⟨⟩
    · exact ⟨_, _, _, rfl, rfl, h₂, nofun⟩
    · rcases follow_compilation_agree hT rfl rfl ((hT h₂.alike).build rfl rfl) rfl rfl h₂
        with ⟨built, m₃, m₃', hx, hx', h₃, howns⟩
      simp only
      rw [hx, hx']
      rcases built with e | module
      · exact ⟨_, _, _, rfl, rfl, h₃, nofun⟩
      · refine ⟨.ok module, _, _, rfl, rfl, h₃.log _, ?_⟩
        rintro _ ⟨⟩
        exact howns module rfl

/-! ## Marshaling -/

theorem createArray_agree (hT : T.Isolated interpreter) {types : ArrayTypes}
    (howns : ∀ type ∈ types.held, T.ownsType slot type) (kind : ArrayKind) (items : List Value)
    (h : T.MachinesAgree slot o hand hand' m m') :
    SameAnswer (T.MachinesAgree slot o hand hand') (types.create interpreter kind items m)
      (types.create interpreter kind items m') := by
  unfold ArrayTypes.create
  cases htype : types.get? kind with
  | none => exact .intro _ (h.log _)
  | some type =>
    have hheld : type ∈ types.held :=
      List.mem_filterMap.mpr ⟨kind, by cases kind <;> decide, htype⟩
    rcases h.answer ((hT h.alike).createArray (howns type hheld) items)
      with ⟨created, engine, engine', hx, hx', h₁⟩
    simp only
    rw [hx, hx']
    cases created with
    | ok array => exact .intro _ h₁
    | error cause => exact .intro _ (h₁.log _)

theorem marshaling_agree (hT : T.Isolated interpreter) {types : ArrayTypes}
    (howns : ∀ type ∈ types.held, T.ownsType slot type) (marshaling : Marshaling)
    (h : T.MachinesAgree slot o hand hand' m m') :
    SameAnswer (T.MachinesAgree slot o hand hand') (marshaling.run interpreter types m)
      (marshaling.run interpreter types m') := by
  induction marshaling generalizing m m' with
  | done args => exact .intro _ h
  | array kind items next ih =>
    rcases createArray_agree hT howns kind items h with ⟨array, m₁, m₁', hx, hx', h₁⟩
    rw [Marshaling.run, Marshaling.run, hx, hx']
    exact ih array h₁

theorem marshal_agree (hT : T.Isolated interpreter) {types : ArrayTypes}
    (howns : ∀ type ∈ types.held, T.ownsType slot type) (descriptor : EventDescriptor)
    (event : HostEvent) (h : T.MachinesAgree slot o hand hand' m m') :
    SameAnswer (T.MachinesAgree slot o hand hand')
      (descriptor.marshal interpreter event types m)
      (descriptor.marshal interpreter event types m') := by
  rcases marshaling_agree hT howns (descriptor.marshaling event) h
    with ⟨args, m₁, m₁', hx, hx', h₁⟩
  rw [EventDescriptor.marshal, EventDescriptor.marshal, hx, hx']
  exact .intro _ h₁

end Tenancy

end ScriptHost
