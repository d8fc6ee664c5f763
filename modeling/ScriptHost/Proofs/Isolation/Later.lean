import ScriptHost.Proofs.Isolation.Resource

/-!
# What comes later

A resource is given operations, and between them the clock moves and others use the interpreter
(`Resource.goOn`).  Where the resource cannot tell two machines apart at the outset, it answers and
records the same for ever after (`Tenancy.goOn_agree`).  A resource that sees all there is to see is
a tenant of any interpreter (`Tenancy.sole`), so that whatever the journal holds has no effect
(`Resource.goOn_unlogged`).
-/

namespace ScriptHost

variable {σ : Type}

/-- What may happen later on. -/
inductive Happening (σ : Type) where
  | operation (operation : Operation)
  /-- The clock is read, and the interpreter has been used by others. -/
  | elsewhere (now : Instant) (change : σ → σ)

namespace Resource

/-- What the operations among what happens later answer and record, but for the numbers of files, and
what has become of the resource and the machine in the end. -/
def goOn (interpreter : Interpreter σ) :
    List (Happening σ) → Resource σ → Machine σ → List (Answer × List Entry) × Resource σ × Machine σ
  | [], r, m => ([], r, m)
  | .operation operation :: rest, r, m =>
    let (answer, r', m') := r.perform interpreter operation m
    let (shown, last) := goOn interpreter rest r' m'
    ((answer, (m.journal.since m'.journal).map Entry.unnumbered) :: shown, last)
  | .elsewhere now change :: rest, r, m =>
    goOn interpreter rest r { m with engine := change m.engine, now }

end Resource

namespace Tenancy

variable {T : Tenancy σ} {interpreter : Interpreter σ} {slot : String} {o : Outset σ}
  {r r' : Resource σ} {m m' : Machine σ}

/-- The resource in a slot may be asked for it: host functions get functions of its module only, and
it cannot tell states apart after a change by others if it could not tell them apart before. -/
def Admits (T : Tenancy σ) (slot : String) : Happening σ → Prop
  | .operation (.hostCall _ _ args) => ∀ f ∈ functionHandles args, T.owns slot f
  | .operation _ => True
  | .elsewhere _ change => ∀ hand hand' e e', T.Alike slot ⟨e, hand⟩ ⟨e', hand'⟩ →
      T.Alike slot ⟨change e, hand⟩ ⟨change e', hand'⟩

theorem perform_agree_of_admits (hT : T.Isolated interpreter) {operation : Operation}
    (hop : T.Admits slot (.operation operation)) (h : T.ResourcesAgree slot o (r, m) (r', m')) :
    SameAnswer (T.ResourcesAgree slot o) (r.perform interpreter operation m)
      (r'.perform interpreter operation m') := by
  cases operation with
  | hostCall function userData args =>
    rcases runCounted_agree hT function userData hop h.scene with ⟨result, t, t', hx, hx', ht⟩
    simp only [Resource.perform, hx, hx']
    exact .intro _ (h.twins.adopt ht)
  | start | tryStart | stop | event | tick | dispatch => exact perform_agree hT trivial h

/-- A resource that cannot tell two machines apart answers and records the same from then on, and
never can tell them apart. -/
theorem goOn_agree (hT : T.Isolated interpreter) {later : List (Happening σ)}
    (hlater : ∀ step ∈ later, T.Admits slot step) (hr : T.Twins slot r r')
    (halike : T.Alike slot ⟨m.engine, r.hand⟩ ⟨m'.engine, r'.hand⟩) (hnow : m.now = m'.now) :
    SameAnswer
      (fun p p' => T.Twins slot p.1 p'.1 ∧ p.2.now = p'.2.now ∧
        T.Alike slot ⟨p.2.engine, p.1.hand⟩ ⟨p'.2.engine, p'.1.hand⟩)
      (r.goOn interpreter later m) (r'.goOn interpreter later m') := by
  induction later generalizing r r' m m' with
  | nil => exact .intro _ ⟨hr, hnow, halike⟩
  | cons step rest ih =>
    obtain ⟨hstep, hrest⟩ := List.forall_mem_cons.mp hlater
    cases step with
    | operation operation =>
      have hbegin : T.ResourcesAgree slot ⟨m, m', r.hand, r'.hand⟩ (r, m) (r', m') :=
        ⟨hr, .refl halike hnow⟩
      rcases perform_agree_of_admits hT hstep hbegin with ⟨answer, ⟨r₁, m₁⟩, ⟨r₁', m₁'⟩, hx, hx', h₁⟩
      rcases ih hrest h₁.twins h₁.machines.alike h₁.machines.now with ⟨shown, last, last', hy, hy', h⟩
      have hentries : (m.journal.since m₁.journal).map Entry.unnumbered
          = (m'.journal.since m₁'.journal).map Entry.unnumbered := h₁.machines.journal.since_eq
      simp only [Resource.goOn, hx, hx', hy, hy', hentries]
      exact .intro _ h
    | elsewhere now change => exact ih hrest hr (hstep _ _ _ _ halike) rfl

/-! ## A resource alone -/

/-- The tenancy of a resource that sees the whole state and has nobody beside it. -/
def sole (r : Resource σ) : Tenancy σ where
  View := Seat σ
  view slot s := if slot = r.name then some s else none
  name _ := r.name
  package _ := r.package
  owns _ _ := True
  ownsType _ _ := True

theorem alike_sole_iff {slot : String} {s s' : Seat σ} :
    (sole r).Alike slot s s' ↔ slot = r.name ∧ s = s' := by
  by_cases h : slot = r.name
  · simp [Alike, sole, h, eq_comm]
  · simp [Alike, sole, h]

/-- The sole resource sees all changes, and there is no other. -/
theorem moved_sole (s t : Seat σ) : (sole r).Moved r.name s s t t := by
  have hunseen : (sole r).Unseen r.name s t := by
    intro other hother hand _ hvalid
    exact absurd (alike_sole_iff.mp hvalid).1 hother
  exact ⟨alike_sole_iff.mpr ⟨rfl, rfl⟩, hunseen, hunseen⟩

theorem compilation_abreast_sole (hand : Hand) (engine : σ) (compilation : Compilation σ) :
    Compilation.Abreast (sole r) r.name hand hand engine engine compilation compilation := by
  induction compilation generalizing engine with
  | failed next error => exact .failed error (moved_sole _ _)
  | compiled next module =>
    exact .compiled module ⟨fun _ _ => trivial, fun _ _ _ => trivial, fun _ _ _ => trivial⟩
      (moved_sole _ _)
  | reported report next ih => exact .reported report (ih engine)
  | requested next path sectionName resume ih =>
    refine .requested path sectionName (moved_sole _ _) fun e e' source halike => ?_
    cases (alike_sole_iff.mp halike).2
    exact ih e source e

theorem run_abreast_sole (hand : Hand) (engine : σ) (run : ScriptRun σ) :
    ScriptRun.Abreast (sole r) r.name hand hand engine engine run run := by
  induction run generalizing engine with
  | ended next result => exact .ended result (moved_sole _ _)
  | reported report next ih => exact .reported report (ih engine)
  | waited offset next ih => exact .waited offset (ih engine)
  | called next function userData args resume ih =>
    refine .called function userData args (fun _ _ => trivial) (moved_sole _ _)
      fun e e' result halike => ?_
    cases (alike_sole_iff.mp halike).2
    exact ih e result e

/-- Nothing is asked of an interpreter that serves one resource. -/
theorem sole_isolated (interpreter : Interpreter σ) (r : Resource σ) :
    (sole r).Isolated interpreter := by
  intro slot s s' halike
  obtain ⟨rfl, rfl⟩ := alike_sole_iff.mp halike
  constructor
  case openFile =>
    intro _ _ path
    exact ⟨_, _, _, _, rfl, rfl, rfl, moved_sole _ _⟩
  case fileSize =>
    intro file file' hfile hfile'
    cases Option.some.inj (hfile.symm.trans hfile')
    rfl
  case readChunk =>
    intro file file' hfile hfile' room
    cases Option.some.inj (hfile.symm.trans hfile')
    exact ⟨rfl, moved_sole _ _⟩
  case closeFile =>
    intro file file' hfile hfile'
    cases Option.some.inj (hfile.symm.trans hfile')
    exact moved_sole _ _
  case startModule => exact fun _ _ => ⟨rfl, moved_sole _ _⟩
  case addSection => exact fun _ _ _ _ => ⟨rfl, moved_sole _ _⟩
  case build => exact fun _ _ => compilation_abreast_sole _ _ _
  case discardModule => exact fun _ _ => moved_sole _ _
  case createContext => exact fun _ _ => moved_sole _ _
  case releaseContext =>
    intro context context' hcontext hcontext'
    cases Option.some.inj (hcontext.symm.trans hcontext')
    exact moved_sole _ _
  case prepare =>
    intro context context' hcontext hcontext' function _
    cases Option.some.inj (hcontext.symm.trans hcontext')
    exact ⟨rfl, moved_sole _ _⟩
  case bindScalar =>
    intro context context' hcontext hcontext' index value
    cases Option.some.inj (hcontext.symm.trans hcontext')
    exact ⟨rfl, moved_sole _ _⟩
  case bindObject =>
    intro context context' hcontext hcontext' index object
    cases Option.some.inj (hcontext.symm.trans hcontext')
    exact ⟨rfl, moved_sole _ _⟩
  case execute =>
    intro context context' hcontext hcontext'
    cases Option.some.inj (hcontext.symm.trans hcontext')
    exact run_abreast_sole _ _ _
  case returnByte =>
    intro context context' hcontext hcontext'
    cases Option.some.inj (hcontext.symm.trans hcontext')
    rfl
  case createArray => exact fun _ _ => ⟨rfl, moved_sole _ _⟩

/-- A running resource is the sole tenant. -/
theorem twins_sole (hwell : r.bindings.timers.WellFormed) (hphase : r.phase ≠ .uninitialized) :
    (sole r).Twins r.name r r where
  same := ⟨r.context, rfl⟩
  contexts := rfl
  name := rfl
  package := rfl
  covers := ⟨hwell, fun _ _ => trivial, fun _ _ => trivial⟩
  module _ _ := ⟨fun _ _ => trivial, fun _ _ _ => trivial, fun _ _ _ => trivial⟩
  unstarted h := absurd h hphase

end Tenancy

/-- What is in the journal has no effect on anything that happens later. -/
theorem Resource.goOn_unlogged (interpreter : Interpreter σ) {r : Resource σ}
    (hwell : r.bindings.timers.WellFormed) (hphase : r.phase ≠ .uninitialized)
    (later : List (Happening σ)) {m m' : Machine σ} (hengine : m.engine = m'.engine)
    (hnow : m.now = m'.now) :
    ∃ shown r₁ m₁ m₁', r.goOn interpreter later m = (shown, r₁, m₁) ∧
      r.goOn interpreter later m' = (shown, r₁, m₁') ∧
      m₁.engine = m₁'.engine ∧ m₁.now = m₁'.now := by
  have hlater : ∀ step ∈ later, (Tenancy.sole r).Admits r.name step := by
    intro step _
    match step with
    | .operation (.hostCall ..) => exact fun _ _ => trivial
    | .operation .start | .operation .tryStart | .operation .stop | .operation (.event _)
    | .operation .tick | .operation (.dispatch ..) => exact trivial
    | .elsewhere now change =>
      intro hand hand' e e' halike
      cases (Tenancy.alike_sole_iff.mp halike).2
      exact Tenancy.alike_sole_iff.mpr ⟨rfl, rfl⟩
  have halike : (Tenancy.sole r).Alike r.name ⟨m.engine, r.hand⟩ ⟨m'.engine, r.hand⟩ :=
    Tenancy.alike_sole_iff.mpr ⟨rfl, by rw [hengine]⟩
  rcases Tenancy.goOn_agree (Tenancy.sole_isolated interpreter r) hlater
    (Tenancy.twins_sole hwell hphase) halike hnow
    with ⟨shown, ⟨r₁, m₁⟩, ⟨r₁', m₁'⟩, hx, hx', htwins, hnow₁, halike₁⟩
  -- the two resources differ at most in the context, and that is in the hand
  have hseat := (Tenancy.alike_sole_iff.mp halike₁).2
  obtain ⟨context, hsame⟩ : ∃ context, r₁' = { r₁ with context } := htwins.same
  have hcontext : context = r₁.context := by
    have hhand : r₁.context = r₁'.context := congrArg (·.hand.context?) hseat
    rw [hhand, hsame]
  obtain rfl : r₁' = r₁ := by rw [hsame, hcontext]
  exact ⟨shown, r₁', m₁, m₁', hx, hx', congrArg Seat.engine hseat, hnow₁⟩

end ScriptHost
