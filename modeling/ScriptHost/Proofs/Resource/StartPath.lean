import ScriptHost.Proofs.Resource.Compile

/-!
# The way of a start

A start attempts its stages one after the other.  `StartStep` tells of each stage what it works on,
what it leads to, and with which error it fails; no stage follows a failure, so that the first stage
that fails ends the start.  `StartPath` puts stages together:

* which stage comes next is a matter of the point alone, and so is its result
  (`StartStep.deterministic`), so that there is one path to an end at most (`StartPath.unique`);
* the stages of a path follow each other in their order (`StartPath.attempted_eq`);
* `startModule_ends` finds the path of every start, and what it ends in is what the start gives.
-/

namespace ScriptHost

variable {σ : Type}

/-! ## Stages -/

inductive StartStage where
  | openMain
  | readMain
  | decodeMain
  | startModule
  | addSection
  | build
  | createContext
  | findEntrypoint
  | runEntrypoint
  | resolveArrayTypes
deriving DecidableEq, Repr

namespace StartStage

/-- The stages, in the order in which a start attempts them. -/
def all : List StartStage :=
  [openMain, readMain, decodeMain, startModule, addSection, build, createContext, findEntrypoint,
    runEntrypoint, resolveArrayTypes]

/-- The number of stages before this one. -/
def index : StartStage → Nat
  | openMain => 0
  | readMain => 1
  | decodeMain => 2
  | startModule => 3
  | addSection => 4
  | build => 5
  | createContext => 6
  | findEntrypoint => 7
  | runEntrypoint => 8
  | resolveArrayTypes => 9

theorem getElem?_index (stage : StartStage) : all[stage.index]? = some stage := by
  cases stage <;> rfl

/-- The errors with which a start reports that a stage has failed, with the name of the resource and
the path of its main file.  The stages of the compilation are reported by name. -/
inductive Reports (name main : String) : StartStage → StartError → Prop
  | openMain : Reports name main .openMain (.readSource main .notOpened)
  | readMain : Reports name main .readMain (.readSource main .endedEarly)
  | decodeMain : Reports name main .decodeMain (.readSource main .notUtf8)
  | startModule {stage : CompilationStage} (cause : EngineError)
      (hstage : stage.name = "Builder start") :
      Reports name main .startModule (.compilation name stage cause)
  | addSection {stage : CompilationStage} (cause : EngineError)
      (hstage : stage.name = "Adding section") :
      Reports name main .addSection (.compilation name stage cause)
  | build {stage : CompilationStage} (cause : EngineError) (hstage : stage.name = "Compilation") :
      Reports name main .build (.compilation name stage cause)
  | findEntrypoint : Reports name main .findEntrypoint (.entrypointNotFound name)
  | runEntrypoint (cause : EngineError) : Reports name main .runEntrypoint (.prepare name cause)

end StartStage

/-! ## Points -/

/-- How far a start has come, with what the next stage works on. -/
inductive StartPoint (σ : Type) where
  | begun (m : Machine σ)
  | opened (file : FileHandle) (m : Machine σ)
  | read (bytes : List UInt8) (m : Machine σ)
  | decoded (source : String) (m : Machine σ)
  | moduleStarted (source : String) (m : Machine σ)
  | sectionAdded (m : Machine σ)
  | built (module : ScriptModule) (m : Machine σ)
  | contextCreated (module : ScriptModule) (context : ContextHandle) (m : Machine σ)
  | entrypointFound (module : ScriptModule) (context : ContextHandle)
      (entrypoint : FunctionHandle) (m : Machine σ)
  | returned (module : ScriptModule) (context : ContextHandle) (outcome : Outcome) (s : Scene σ)
  | succeeded (module : ScriptModule) (context : ContextHandle) (s : Scene σ)
  /-- A stage has failed.  What is held is still to be given up. -/
  | failed (stage : StartStage) (error : StartError) (held : Option (ScriptModule × ContextHandle))
      (s : Scene σ)

/-- The resource with what it holds while it is started. -/
def Resource.holding (r : Resource σ) : Option (ScriptModule × ContextHandle) → Resource σ
  | none => r
  | some (module, context) => { r with module := some module, context := some context }

namespace StartPoint

/-- The number of stages that have been attempted. -/
def position : StartPoint σ → Nat
  | begun .. => 0
  | opened .. => 1
  | read .. => 2
  | decoded .. => 3
  | moduleStarted .. => 4
  | sectionAdded .. => 5
  | built .. => 6
  | contextCreated .. => 7
  | entrypointFound .. => 8
  | returned .. => 9
  | succeeded .. => 10
  | failed stage .. => stage.index + 1

/-- The machine at the point, with the bindings.  Only the entry point changes these. -/
def scene (r : Resource σ) : StartPoint σ → Scene σ
  | begun m | opened _ m | read _ m | decoded _ m | moduleStarted _ m | sectionAdded m | built _ m
  | contextCreated _ _ m | entrypointFound _ _ _ m => r.scene m
  | returned _ _ _ s | succeeded _ _ s | failed _ _ _ s => s

/-- What a start gives, if it ends at the point. -/
def result? (r : Resource σ) :
    StartPoint σ → Option (Except StartError Unit × Resource σ × Machine σ)
  | succeeded module context s =>
    some (.ok (), (r.holding (some (module, context))).adopt s, s.machine)
  | failed _ error held s => some (.error error, (r.holding held).adopt s, s.machine)
  | _ => none

theorem end_cases {r : Resource σ} {p : StartPoint σ} (h : (p.result? r).isSome) :
    (∃ module context s, p = .succeeded module context s) ∨
      ∃ stage error held s, p = .failed stage error held s := by
  cases p with
  | succeeded module context s => exact Or.inl ⟨module, context, s, rfl⟩
  | failed stage error held s => exact Or.inr ⟨stage, error, held, s, rfl⟩
  | _ => cases h

theorem scene_of_result? {r : Resource σ} {p : StartPoint σ}
    {result : Except StartError Unit × Resource σ × Machine σ} (h : p.result? r = some result) :
    result.2.1.scene result.2.2 = p.scene r := by
  cases p with
  | succeeded | failed =>
    obtain rfl := Option.some.inj h
    rfl
  | _ => cases h

end StartPoint

/-! ## Steps -/

/-- What a stage of a start comes to: it leads to the next point, or the start has failed. -/
inductive StartStep (interpreter : Interpreter σ) (r : Resource σ) :
    StartStage → StartPoint σ → StartPoint σ → Prop
  | opened {m : Machine σ} {file : FileHandle} {engine : σ}
      (h : r.package.openFile m.engine r.main = (some file, engine)) :
      StartStep interpreter r .openMain (.begun m)
        (.opened file (({ m with engine } : Machine σ).record (.fileOpened r.main true)))
  | notOpened {m : Machine σ} {engine : σ}
      (h : r.package.openFile m.engine r.main = (none, engine)) :
      StartStep interpreter r .openMain (.begun m)
        (.failed .openMain (.readSource r.main .notOpened) none
          (r.scene (({ m with engine } : Machine σ).record (.fileOpened r.main false))))
  | read {file : FileHandle} {m m' : Machine σ} {bytes : List UInt8}
      (h : r.package.readWhole file m = (some bytes, m')) :
      StartStep interpreter r .readMain (.opened file m) (.read bytes m')
  | endedEarly {file : FileHandle} {m m' : Machine σ}
      (h : r.package.readWhole file m = (none, m')) :
      StartStep interpreter r .readMain (.opened file m)
        (.failed .readMain (.readSource r.main .endedEarly) none (r.scene m'))
  | decoded {bytes : List UInt8} {m : Machine σ} {source : String}
      (h : String.fromUTF8? ⟨bytes.toArray⟩ = some source) :
      StartStep interpreter r .decodeMain (.read bytes m) (.decoded source m)
  | notUtf8 {bytes : List UInt8} {m : Machine σ} (h : String.fromUTF8? ⟨bytes.toArray⟩ = none) :
      StartStep interpreter r .decodeMain (.read bytes m)
        (.failed .decodeMain (.readSource r.main .notUtf8) none (r.scene m))
  | moduleStarted {source : String} {m : Machine σ} {engine : σ}
      (h : interpreter.startModule m.engine r.name = (.ok (), engine)) :
      StartStep interpreter r .startModule (.decoded source m)
        (.moduleStarted source { m with engine })
  | moduleNotStarted {source : String} {m : Machine σ} {cause : EngineError} {engine : σ}
      (h : interpreter.startModule m.engine r.name = (.error cause, engine)) :
      StartStep interpreter r .startModule (.decoded source m)
        (.failed .startModule (.compilation r.name .start cause) none (r.scene { m with engine }))
  | sectionAdded {source : String} {m : Machine σ} {engine : σ}
      (h : interpreter.addSection m.engine r.main source = (.ok (), engine)) :
      StartStep interpreter r .addSection (.moduleStarted source m)
        (.sectionAdded { m with engine })
  | sectionNotAdded {source : String} {m : Machine σ} {cause : EngineError} {engine : σ}
      (h : interpreter.addSection m.engine r.main source = (.error cause, engine)) :
      StartStep interpreter r .addSection (.moduleStarted source m)
        (.failed .addSection (.compilation r.name .section cause) none (r.scene { m with engine }))
  /-- What the sources include is read through the package of the resource. -/
  | built {m m' : Machine σ} {module : ScriptModule}
      (h : (interpreter.build m.engine).follow r.package m = (.ok module, m')) :
      StartStep interpreter r .build (.sectionAdded m)
        (.built module (m'.log (.compiledResource r.name)))
  | notBuilt {m m' : Machine σ} {cause : EngineError}
      (h : (interpreter.build m.engine).follow r.package m = (.error cause, m')) :
      StartStep interpreter r .build (.sectionAdded m)
        (.failed .build (.compilation r.name .build cause) none (r.scene m'))
  | contextCreated {module : ScriptModule} {m : Machine σ} {context : ContextHandle} {engine : σ}
      (h : interpreter.createContext m.engine = (context, engine)) :
      StartStep interpreter r .createContext (.built module m)
        (.contextCreated module context (({ m with engine } : Machine σ).record .contextCreated))
  /-- The entry point that the metadata names comes first. -/
  | entrypointNamed {module : ScriptModule} {context : ContextHandle} {m : Machine σ}
      {entrypoint : FunctionHandle} (h : module.entrypoint? = some entrypoint) :
      StartStep interpreter r .findEntrypoint (.contextCreated module context m)
        (.entrypointFound module context entrypoint m)
  | entrypointDeclared {module : ScriptModule} {context : ContextHandle} {m : Machine σ}
      {entrypoint : FunctionHandle} (hnamed : module.entrypoint? = none)
      (h : module.function? "void Start()" = some entrypoint) :
      StartStep interpreter r .findEntrypoint (.contextCreated module context m)
        (.entrypointFound module context entrypoint m)
  | entrypointNotFound {module : ScriptModule} {context : ContextHandle} {m : Machine σ}
      (hnamed : module.entrypoint? = none) (h : module.function? "void Start()" = none) :
      StartStep interpreter r .findEntrypoint (.contextCreated module context m)
        (.failed .findEntrypoint (.entrypointNotFound r.name) (some (module, context))
          (r.scene (m.log (.entrypointNotFound r.name))))
  /-- Any outcome will do, an exception too. -/
  | returned {module : ScriptModule} {context : ContextHandle} {entrypoint : FunctionHandle}
      {m : Machine σ} {outcome : Outcome} {s : Scene σ}
      (h : (r.scene m).call interpreter context .entrypoint entrypoint [] = (.ok outcome, s)) :
      StartStep interpreter r .runEntrypoint (.entrypointFound module context entrypoint m)
        (.returned module context outcome s)
  | notRun {module : ScriptModule} {context : ContextHandle} {entrypoint : FunctionHandle}
      {m : Machine σ} {cause : EngineError} {s : Scene σ}
      (h : (r.scene m).call interpreter context .entrypoint entrypoint [] = (.error cause, s)) :
      StartStep interpreter r .runEntrypoint (.entrypointFound module context entrypoint m)
        (.failed .runEntrypoint (.prepare r.name cause) (some (module, context)) s)
  | resolved {module : ScriptModule} {context : ContextHandle} {outcome : Outcome} {s : Scene σ} :
      StartStep interpreter r .resolveArrayTypes (.returned module context outcome s)
        (.succeeded module context ((r.logEntrypoint outcome s).pinArrayTypes module))

variable {interpreter : Interpreter σ} {r : Resource σ} {stage stage' : StartStage}
  {p q t q' t' : StartPoint σ}

namespace StartStep

/-- A point determines the stage that is attempted there, and what that comes to. -/
theorem deterministic (h : StartStep interpreter r stage p q)
    (h' : StartStep interpreter r stage' p q') : stage = stage' ∧ q = q' := by
  -- two steps from one point are of one stage; each tells what the same operation has given
  cases h <;> cases h' <;> simp_all

/-- Each stage has its place. -/
theorem position (h : StartStep interpreter r stage p q) :
    p.position = stage.index ∧ q.position = stage.index + 1 := by
  cases h <;> exact ⟨rfl, rfl⟩

/-- Nothing is attempted after the end of a start. -/
theorem result?_eq_none (h : StartStep interpreter r stage p q) : p.result? r = none := by
  cases h <;> rfl

/-- A stage that fails is reported for what it is. -/
theorem reports {failed : StartStage} {error : StartError}
    {held : Option (ScriptModule × ContextHandle)} {s : Scene σ}
    (h : StartStep interpreter r stage p (.failed failed error held s)) :
    failed = stage ∧ stage.Reports r.name r.main error := by
  cases h with
  | notOpened => exact ⟨rfl, .openMain⟩
  | endedEarly => exact ⟨rfl, .readMain⟩
  | notUtf8 => exact ⟨rfl, .decodeMain⟩
  | moduleNotStarted => exact ⟨rfl, .startModule _ rfl⟩
  | sectionNotAdded => exact ⟨rfl, .addSection _ rfl⟩
  | notBuilt => exact ⟨rfl, .build _ rfl⟩
  | entrypointNotFound => exact ⟨rfl, .findEntrypoint⟩
  | notRun => exact ⟨rfl, .runEntrypoint _⟩

end StartStep

/-! ## Paths -/

/-- A start goes from one point to another by attempting stages. -/
inductive StartPath (interpreter : Interpreter σ) (r : Resource σ) :
    List StartStage → StartPoint σ → StartPoint σ → Prop
  | here (p : StartPoint σ) : StartPath interpreter r [] p p
  | step {stage : StartStage} {stages : List StartStage} {p q t : StartPoint σ}
      (hstep : StartStep interpreter r stage p q) (h : StartPath interpreter r stages q t) :
      StartPath interpreter r (stage :: stages) p t

namespace StartPath

variable {stages stages' : List StartStage}

theorem single (h : StartStep interpreter r stage p q) : StartPath interpreter r [stage] p q :=
  .step h (.here q)

theorem trans (h : StartPath interpreter r stages p q)
    (h' : StartPath interpreter r stages' q t) :
    StartPath interpreter r (stages ++ stages') p t := by
  induction h with
  | here => exact h'
  | step hstep _ ih => exact .step hstep (ih h')

/-- What is kept by the steps is kept on the whole path. -/
theorem invariant (kept : StartPoint σ → Prop)
    (hkept : ∀ {stage p q}, StartStep interpreter r stage p q → kept p → kept q)
    (h : StartPath interpreter r stages p q) (hp : kept p) : kept q := by
  induction h with
  | here => exact hp
  | step hstep _ ih => exact ih (hkept hstep hp)

/-- A path to the end of a start goes on from every point that a path leads to. -/
theorem to_end (h : StartPath interpreter r stages p t) (hend : (t.result? r).isSome)
    (h' : StartPath interpreter r stages' p q) :
    ∃ rest, stages = stages' ++ rest ∧ StartPath interpreter r rest q t := by
  induction h' generalizing stages with
  | here => exact ⟨stages, rfl, h⟩
  | step hstep _ ih =>
    cases h with
    | here =>
      -- the start has ended where the other path goes on
      rw [hstep.result?_eq_none] at hend
      cases hend
    | step hstep' hrest =>
      obtain ⟨rfl, rfl⟩ := hstep.deterministic hstep'
      obtain ⟨rest, rfl, hpath⟩ := ih hrest
      exact ⟨rest, rfl, hpath⟩

/-- There is no other end. -/
theorem unique (h : StartPath interpreter r stages p t) (hend : (t.result? r).isSome)
    (h' : StartPath interpreter r stages' p t') (hend' : (t'.result? r).isSome) :
    stages = stages' ∧ t = t' := by
  obtain ⟨rest, rfl, hpath⟩ := h.to_end hend h'
  cases hpath with
  | here => exact ⟨List.append_nil _, rfl⟩
  | step hstep =>
    rw [hstep.result?_eq_none] at hend'
    cases hend'

/-- The stages are attempted in their order, and none is left out. -/
theorem attempted_eq (h : StartPath interpreter r stages p q) :
    StartStage.all.take p.position ++ stages = StartStage.all.take q.position := by
  induction h with
  | here => exact List.append_nil _
  | @step stage stages p q t hstep _ ih =>
    obtain ⟨hp, hq⟩ := hstep.position
    rw [hq, List.take_add_one, stage.getElem?_index] at ih
    rw [hp, ← ih, List.append_assoc]
    rfl

/-- The stage that has failed is the last one that has been attempted. -/
theorem failed_last {error : StartError} {held : Option (ScriptModule × ContextHandle)}
    {s : Scene σ} (h : StartPath interpreter r stages p (.failed stage error held s))
    (hp : p.result? r = none) :
    ∃ passed, stages = passed ++ [stage] ∧ stage.Reports r.name r.main error := by
  -- the induction needs a last point of any form, as the paths of the later steps end there too
  generalize hlast : StartPoint.failed stage error held s = last at h
  induction h with
  | here =>
    rw [← hlast] at hp
    cases hp
  | @step first stages p q t hstep h ih =>
    subst hlast
    cases h with
    | here =>
      -- this step is the one that fails
      obtain ⟨rfl, hreports⟩ := hstep.reports
      exact ⟨[], rfl, hreports⟩
    | step hnext =>
      obtain ⟨passed, hstages, hreports⟩ := ih hnext.result?_eq_none rfl
      exact ⟨first :: passed, congrArg _ hstages, hreports⟩

end StartPath

namespace Resource

variable (interpreter : Interpreter σ) (r : Resource σ)

/-! ## The path of a start -/

/-- The main file is read in three stages. -/
theorem readSource_path (m : Machine σ) :
    (∃ source m', r.package.readSource r.main m = (.ok source, m') ∧
      StartPath interpreter r [.openMain, .readMain, .decodeMain] (.begun m) (.decoded source m')) ∨
    ∃ fault m' stages stage, r.package.readSource r.main m = (.error fault, m') ∧
      StartPath interpreter r stages (.begun m)
        (.failed stage (.readSource r.main fault) none (r.scene m')) := by
  rcases hopen : r.package.openFile m.engine r.main with ⟨_ | file, engine⟩
  · unfold Package.readSource
    rw [hopen]
    exact Or.inr ⟨_, _, _, _, rfl, .single (.notOpened hopen)⟩
  · have hopened : StartStep interpreter r .openMain (.begun m) _ := .opened hopen
    rw [r.package.readSource_of_opened hopen]
    rcases hread : r.package.readWhole file _ with ⟨_ | bytes, m'⟩
    · exact Or.inr ⟨_, _, _, _, rfl, .step hopened (.single (.endedEarly hread))⟩
    · have hwhole : StartPath interpreter r [.openMain, .readMain] (.begun m) (.read bytes m') :=
        .step hopened (.single (.read hread))
      cases hutf8 : String.fromUTF8? ⟨bytes.toArray⟩ with
      | none =>
        simp only [hutf8]
        exact Or.inr ⟨_, _, _, _, rfl, hwhole.trans (.single (.notUtf8 hutf8))⟩
      | some source =>
        simp only [hutf8]
        exact Or.inl ⟨_, _, rfl, hwhole.trans (.single (.decoded hutf8))⟩

/-- The source is compiled in three stages. -/
theorem compile_path (source : String) (m : Machine σ) :
    (∃ module m', r.compile interpreter source m = (.ok module, m') ∧
      StartPath interpreter r [.startModule, .addSection, .build] (.decoded source m)
        (.built module m')) ∨
    ∃ error m' stages stage, r.compile interpreter source m = (.error error, m') ∧
      StartPath interpreter r stages (.decoded source m)
        (.failed stage error none (r.scene m')) := by
  unfold compile
  rcases hstart : interpreter.startModule m.engine r.name with ⟨cause | ⟨⟩, engine⟩
  · exact Or.inr ⟨_, _, _, _, rfl, .single (.moduleNotStarted hstart)⟩
  · simp only
    rcases hsection : interpreter.addSection engine r.main source with ⟨cause | ⟨⟩, engine'⟩
    · exact Or.inr ⟨_, _, _, _, rfl,
        .step (.moduleStarted hstart) (.single (.sectionNotAdded hsection))⟩
    · simp only
      rcases hbuild : (interpreter.build engine').follow r.package { m with engine := engine' }
        with ⟨cause | module, m'⟩
      · exact Or.inr ⟨_, _, _, _, rfl, .step (.moduleStarted hstart)
          (.step (.sectionAdded hsection) (.single (.notBuilt hbuild)))⟩
      · exact Or.inl ⟨_, _, rfl, .step (.moduleStarted hstart)
          (.step (.sectionAdded hsection) (.single (.built hbuild)))⟩

/-- The module is entered in three stages. -/
theorem enterModule_path (module : ScriptModule) (context : ContextHandle) (m : Machine σ) :
    ∃ stages last, StartPath interpreter r stages (.contextCreated module context m) last ∧
      last.result? r
        = some ((r.holding (some (module, context))).enterModule interpreter module context m) := by
  unfold enterModule
  cases hfind : module.entrypoint?.or (module.function? startDeclaration) with
  | none =>
    obtain ⟨hnamed, hdeclared⟩ := Option.or_eq_none_iff.mp hfind
    exact ⟨_, _, .single (.entrypointNotFound hnamed hdeclared), rfl⟩
  | some entrypoint =>
    have hfound : StartStep interpreter r .findEntrypoint (.contextCreated module context m)
        (.entrypointFound module context entrypoint m) := by
      rcases Option.or_eq_some_iff.mp hfind with hnamed | ⟨hnamed, hdeclared⟩
      · exact .entrypointNamed hnamed
      · exact .entrypointDeclared hnamed hdeclared
    rcases hcall : (r.scene m).call interpreter context .entrypoint entrypoint []
      with ⟨cause | outcome, s⟩
    · refine ⟨_, _, .step hfound (.single (.notRun hcall)), ?_⟩
      have hheld : ((r.holding (some (module, context))).scene m).call interpreter context
          .entrypoint entrypoint [] = (.error cause, s) := hcall
      simp only [hheld]
      rfl
    · refine ⟨_, _, .step hfound (.step (.returned hcall) (.single .resolved)), ?_⟩
      have hheld : ((r.holding (some (module, context))).scene m).call interpreter context
          .entrypoint entrypoint [] = (.ok outcome, s) := hcall
      simp only [hheld]
      rfl

/-- Every start has a path to an end, and gives what it ends in. -/
theorem startModule_path (m : Machine σ) :
    ∃ stages last, StartPath interpreter r stages (.begun m) last ∧
      last.result? r = some (r.startModule interpreter m) := by
  unfold startModule
  rcases r.readSource_path interpreter m with
    ⟨source, m₁, hread, hpath⟩ | ⟨fault, m₁, stages, stage, hread, hpath⟩
  · rcases r.compile_path interpreter source m₁ with
      ⟨module, m₂, hcompile, hpath'⟩ | ⟨error, m₂, stages, stage, hcompile, hpath'⟩
    · let context := (interpreter.createContext m₂.engine).1
      let engine := (interpreter.createContext m₂.engine).2
      let m₃ : Machine σ := ({ m₂ with engine } : Machine σ).record .contextCreated
      have hcreated : StartStep interpreter r .createContext (.built module m₂)
          (.contextCreated module context m₃) := .contextCreated rfl
      obtain ⟨stages, last, henter, hresult⟩ := r.enterModule_path interpreter module context m₃
      refine ⟨_, last, (hpath.trans hpath').trans (.step hcreated henter), ?_⟩
      simp only [hread, hcompile]
      exact hresult
    · refine ⟨_, _, hpath.trans hpath', ?_⟩
      simp only [hread, hcompile]
      rfl
  · refine ⟨_, _, hpath, ?_⟩
    simp only [hread]
    rfl

end Resource

end ScriptHost
