import ScriptHost.Proofs.Resource.Lifecycle
import ScriptHost.Proofs.Resource.Settlement

/-!
# What decides a start

The start of a resource that has not been started before attempts its stages in their order, and
the first that fails decides it.  `Reachable.tryStart_decided` says so for every package, interpreter
and script: which stages are attempted, what is recorded while they are, when the start fails and
with which error, and that nothing remains of a start that has failed.
-/

namespace ScriptHost

variable {σ : Type} {interpreter : Interpreter σ}

/-! ## Array types -/

/-- The array type that a reference is taken on. -/
def Entry.typeRetained? : Entry → Option ArrayTypeHandle
  | typeRetained type => some type
  | _ => none

theorem Entry.Quiet.typeRetained?_eq {entry : Entry} (h : entry.Quiet) :
    entry.typeRetained? = none := by
  cases entry <;> first | rfl | exact h.elim

/-- No script takes a reference to an array type. -/
theorem Scene.typesRetained_call (interpreter : Interpreter σ) (context : ContextHandle)
    (cause : CallCause) (function : FunctionHandle) (args : List Argument) (s : Scene σ) :
    (s.call interpreter context cause function args).2.machine.journal.viewed Entry.typeRetained?
      = s.machine.journal.viewed Entry.typeRetained? := by
  have hmoves : ScriptMoves interpreter anyCall (s.record (.called cause function args))
      (s.call interpreter context cause function args).2 :=
    call_moves interpreter.asksOnly_anyCall s
  have hhidden : ∀ e : Entry, e.ByScript → e.typeRetained? = none := by
    intro e he
    cases e <;> first | rfl | exact he.elim
  rw [hmoves.viewed_eq hhidden, journal_record, Journal.viewed_push]
  exact List.append_nil _

/-- Up to the last point of a start, no array type has been looked up. -/
theorem StartStep.typesRetained_eq {r : Resource σ} {stage : StartStage} {p q : StartPoint σ}
    (h : StartStep interpreter r stage p q)
    (hq : ∀ module context s, q ≠ .succeeded module context s) :
    (q.scene r).machine.journal.viewed Entry.typeRetained?
      = (p.scene r).machine.journal.viewed Entry.typeRetained? := by
  cases h with
  | opened | notOpened | contextCreated | entrypointNotFound =>
    exact (Journal.viewed_push _ _ _).trans (List.append_nil _)
  | @read file m _ _ h | @endedEarly file m _ h =>
    have hgrows := r.package.readWhole_grows file m
    rw [h] at hgrows
    exact hgrows.viewed_eq fun _ he => he.1.1.typeRetained?_eq
  | decoded | notUtf8 | moduleStarted | moduleNotStarted | sectionAdded | sectionNotAdded
  | entrypointNamed | entrypointDeclared => rfl
  | @built m m' _ h =>
    have hgrows := ((interpreter.build m.engine).follow_compiles r.package m).grows
    rw [h] at hgrows
    have hlogged : m.journal.Grows Entry.Silent (m'.log (.compiledResource r.name)).journal :=
      hgrows.push ⟨trivial, rfl⟩
    exact hlogged.viewed_eq fun _ he => he.1.typeRetained?_eq
  | @notBuilt m m' _ h =>
    have hgrows := ((interpreter.build m.engine).follow_compiles r.package m).grows
    rw [h] at hgrows
    exact hgrows.viewed_eq fun _ he => he.1.typeRetained?_eq
  | @returned _ context entrypoint m _ s h | @notRun _ context entrypoint m _ s h =>
    have hcall := (r.scene m).typesRetained_call interpreter context .entrypoint entrypoint []
    rw [h] at hcall
    exact hcall
  | resolved => exact absurd rfl (hq _ _ _)

namespace Resource

variable {history : Journal} {r : Resource σ} {m : Machine σ}

theorem PhaseStep.of_uninitialized {phase : Phase} (h : PhaseStep phase .uninitialized) :
    phase = .uninitialized := by
  cases h
  rfl

/-- A resource that has not been started holds no array types. -/
theorem Reachable.arrays_eq (h : Reachable interpreter history r m)
    (hphase : r.phase = .uninitialized) : r.bindings.arrays = {} := by
  induction h with
  | created => rfl
  | @performed history r m operation h ih =>
    have hlived := h.sound.lived
    have hstep := perform_step interpreter.asksOnly_anyCall r m operation.asks_anyCall hlived
    have hchange : PhaseStep r.phase .uninitialized := by
      rw [← hphase]
      exact hstep.phase
    have hbefore : r.phase = .uninitialized := hchange.of_uninitialized
    have hidle : r.phase ≠ .running := by
      rw [hbefore]
      exact fun h => by cases h
    -- a start or a stop would have ended this phase, and a dispatch does nothing in it
    have hnotStarted : (r.tryStart interpreter m).2.1.phase ≠ .uninitialized := by
      rcases r.tryStart_phase interpreter hbefore m with ⟨-, hrunning⟩ | ⟨_, -, hstopped⟩
      · rw [hrunning]
        exact fun h => by cases h
      · rw [hstopped]
        exact fun h => by cases h
    have hdispatch : operation.IsDispatch →
        (r.perform interpreter operation m).2.1.bindings.arrays = {} := by
      intro hop
      rw [r.perform_of_not_running interpreter hidle hop m]
      exact ih hbefore
    cases operation with
    | start =>
      rw [← r.start_eq_tryStart interpreter m] at hnotStarted
      exact absurd hphase hnotStarted
    | tryStart => exact absurd hphase hnotStarted
    | stop =>
      have hstopped := (stop_step interpreter.asksOnly_anyCall r m hlived).2.1
      exact absurd (hphase.symm.trans hstopped) fun h => by cases h
    | event | tick | dispatch => exact hdispatch trivial
    | hostCall function userData args =>
      have hcontinues : (r.scene m).Continues anyCall
          (function.runCounted interpreter userData args (r.scene m)).2 :=
        .hostCall interpreter userData trivial (r.scene m)
      exact hcontinues.arrays.trans (ih hbefore)
  | elsewhere _ _ ih => exact ih hphase

/-! ## Starts -/

/-- The resource while it is being started. -/
def compiling (r : Resource σ) : Resource σ := { r with phase := .compiling }

/-- A start of the resource attempts the stages and then is at the point. -/
def StartReaches (interpreter : Interpreter σ) (r : Resource σ) (m : Machine σ)
    (attempted : List StartStage) (p : StartPoint σ) : Prop :=
  StartPath interpreter r.compiling attempted (.begun (m.log (.startingResource r.name))) p

namespace StartReaches

variable {attempted : List StartStage} {p : StartPoint σ}

/-- The stages that have been attempted are the first ones. -/
theorem in_order (h : r.StartReaches interpreter m attempted p) :
    attempted = StartStage.all.take p.position :=
  h.attempted_eq

/-- What has been recorded of the life of the resource goes with the point. -/
theorem milestones_eq (h : r.StartReaches interpreter m attempted p) :
    (p.scene r.compiling).machine.journal.viewed Entry.milestone?
      = m.journal.viewed Entry.milestone? ++ p.milestones := by
  obtain ⟨shown, hstage, hshown⟩ := StartPath.stage interpreter.asksOnly_anyCall h
  have hlog : (m.log (.startingResource r.name)).journal.viewed Entry.milestone?
      = m.journal.viewed Entry.milestone? :=
    (Journal.viewed_push _ _ _).trans (List.append_nil _)
  rw [hshown, hstage.milestones]
  exact congrArg (· ++ shown) hlog

/-- Until the array types are looked up, after everything else, none is taken. -/
theorem typesRetained_eq (h : r.StartReaches interpreter m attempted p)
    (hp : ∀ module context s, p ≠ .succeeded module context s) :
    (p.scene r.compiling).machine.journal.viewed Entry.typeRetained?
      = m.journal.viewed Entry.typeRetained? := by
  let kept (p : StartPoint σ) : Prop := (∀ module context s, p ≠ .succeeded module context s) →
    (p.scene r.compiling).machine.journal.viewed Entry.typeRetained?
      = m.journal.viewed Entry.typeRetained?
  have hbegun : kept (.begun (m.log (.startingResource r.name))) := fun _ =>
    (Journal.viewed_push _ _ _).trans (List.append_nil _)
  have hkept : kept p := by
    refine h.invariant kept ?_ hbegun
    intro stage p q hstep hbefore hq
    rw [hstep.typesRetained_eq hq]
    refine hbefore ?_
    -- a start that has succeeded does not go on
    rintro module context s rfl
    cases hstep
  exact hkept hp

/-- What a start gives is decided where it ends. -/
theorem startModule_eq (h : r.StartReaches interpreter m attempted p)
    {result : Except StartError Unit × Resource σ × Machine σ}
    (hend : p.result? r.compiling = some result) :
    r.compiling.startModule interpreter (m.log (.startingResource r.name)) = result := by
  obtain ⟨stages, last, hpath, hresult⟩ :=
    r.compiling.startModule_path interpreter (m.log (.startingResource r.name))
  -- the path that there is for every start ends where this one does
  obtain ⟨-, rfl⟩ := hpath.unique (by rw [hresult]; rfl) h (by rw [hend]; rfl)
  exact Option.some.inj (hresult.symm.trans hend)

theorem tryStart_succeeded {module : ScriptModule} {context : ContextHandle} {s : Scene σ}
    (hphase : r.phase = .uninitialized)
    (h : r.StartReaches interpreter m attempted (.succeeded module context s)) :
    r.tryStart interpreter m
      = (.ok (),
        { r with
          phase := .running, module := some module, context := some context
          bindings := s.bindings },
        s.machine.log (.startedResource r.name)) := by
  have hstart := h.startModule_eq rfl
  unfold compiling at hstart
  unfold tryStart
  rw [if_neg (by simp [hphase]), hstart]
  rfl

theorem tryStart_failed {stage : StartStage} {error : StartError}
    {held : Option (ScriptModule × ContextHandle)} {s : Scene σ} (hphase : r.phase = .uninitialized)
    (h : r.StartReaches interpreter m attempted (.failed stage error held s)) :
    r.tryStart interpreter m
      = (.error error,
        { (((r.compiling.holding held).adopt s).teardown interpreter s.machine).1 with
          phase := .stopped },
        (((r.compiling.holding held).adopt s).teardown interpreter s.machine).2) := by
  have hstart := h.startModule_eq rfl
  unfold compiling at hstart
  unfold tryStart
  rw [if_neg (by simp [hphase]), hstart]
  rfl

end StartReaches

/-- The resource is stopped, and nothing is held by it any more. -/
structure Emptied (r : Resource σ) : Prop where
  phase : r.phase = .stopped
  module : r.module = none
  context : r.context = none
  handlers : r.bindings.handlers = []
  custom : r.bindings.custom.entries = []
  timers : r.bindings.timers.timers = []
  pending : r.bindings.timers.pending = []
  arrays : r.bindings.arrays = {}

theorem emptied_teardown (interpreter : Interpreter σ) (r : Resource σ) (m : Machine σ) :
    Emptied { (r.teardown interpreter m).1 with phase := .stopped } :=
  ⟨rfl, rfl, rfl, rfl, rfl, rfl, rfl, rfl⟩

theorem Emptied.callbacks_eq (h : r.Emptied) : r.bindings.callbacks = [] := by
  simp [Bindings.callbacks, CustomHandlers.callbacks, TimerTable.callbacks, h.handlers, h.custom,
    h.timers]

/-- What the resource has made and taken over in its history, which ends with the way from one
machine to the other, has all been given up. -/
structure GivenBack (history : Journal) (m m' : Machine σ) : Prop where
  made : Settled ((history.following m.journal m'.journal).viewed Entry.milestone?)
  callbacks : ∀ f, ((history.following m.journal m'.journal).viewed Entry.takeover?).count f
    = ((history.following m.journal m'.journal).viewed Entry.released?).count f
  types : ∀ t, m'.journal.typeBalance t = m.journal.typeBalance t

/-- What decides the start of a resource, and what it comes to. -/
structure Decided (interpreter : Interpreter σ) (history : Journal) (r : Resource σ)
    (m : Machine σ) : Prop where
  /-- The stages are attempted in their order. -/
  in_order : ∀ attempted p, r.StartReaches interpreter m attempted p → attempted <+: StartStage.all
  /-- The start comes to an end, and no stage is attempted that is not on the way there. -/
  ends : ∃ attempted last, r.StartReaches interpreter m attempted last ∧
    (last.result? r.compiling).isSome ∧
    ∀ attempted' p, r.StartReaches interpreter m attempted' p → attempted' <+: attempted
  /-- What has been recorded of the life of the resource goes with the point: a context is created
  when a module has been built, and then the entry point is called. -/
  recorded : ∀ attempted p, r.StartReaches interpreter m attempted p →
    (p.scene r.compiling).machine.journal.viewed Entry.milestone?
      = m.journal.viewed Entry.milestone? ++ p.milestones
  /-- No array type is taken before the last stage, which is attempted when the entry point has
  returned. -/
  unresolved : ∀ attempted p, r.StartReaches interpreter m attempted p →
    (∀ module context s, p ≠ .succeeded module context s) →
    (p.scene r.compiling).machine.journal.viewed Entry.typeRetained?
      = m.journal.viewed Entry.typeRetained?
  /-- The start succeeds exactly if all stages do. -/
  succeeds_iff : (r.tryStart interpreter m).1 = .ok () ↔
    ∃ module context s, r.StartReaches interpreter m StartStage.all (.succeeded module context s)
  /-- It fails exactly if a stage does, and with the error of that stage. -/
  fails_iff : ∀ error, (r.tryStart interpreter m).1 = .error error ↔
    ∃ attempted stage held s, r.StartReaches interpreter m attempted (.failed stage error held s)
  /-- However the entry point returned, the start has not failed. -/
  accepts : ∀ attempted module context outcome s,
    r.StartReaches interpreter m attempted (.returned module context outcome s) →
    (r.tryStart interpreter m).1 = .ok ()
  succeeded : ∀ attempted module context s,
    r.StartReaches interpreter m attempted (.succeeded module context s) →
    r.tryStart interpreter m
      = (.ok (),
        { r with
          phase := .running, module := some module, context := some context
          bindings := s.bindings },
        s.machine.log (.startedResource r.name))
  /-- The stage that fails is the last one, and the start is torn down where it failed. -/
  failed : ∀ attempted stage error held s,
    r.StartReaches interpreter m attempted (.failed stage error held s) →
    (∃ passed, attempted = passed ++ [stage]) ∧ stage.Reports r.name r.main error ∧
      r.tryStart interpreter m
        = (.error error,
          { (((r.compiling.holding held).adopt s).teardown interpreter s.machine).1 with
            phase := .stopped },
          (((r.compiling.holding held).adopt s).teardown interpreter s.machine).2)
  emptied : ∀ error, (r.tryStart interpreter m).1 = .error error →
    (r.tryStart interpreter m).2.1.Emptied
  givenBack : ∀ error, (r.tryStart interpreter m).1 = .error error →
    GivenBack history m (r.tryStart interpreter m).2.2

/-- Every start comes to an end. -/
theorem startReaches_end (interpreter : Interpreter σ) (r : Resource σ) (m : Machine σ) :
    ∃ attempted last, r.StartReaches interpreter m attempted last ∧
      (last.result? r.compiling).isSome := by
  obtain ⟨attempted, last, hpath, hresult⟩ :=
    r.compiling.startModule_path interpreter (m.log (.startingResource r.name))
  exact ⟨attempted, last, hpath, by rw [hresult]; rfl⟩

section Conclusions

variable (hphase : r.phase = .uninitialized)
include hphase

theorem tryStart_ok_iff :
    (r.tryStart interpreter m).1 = .ok () ↔
      ∃ module context s,
        r.StartReaches interpreter m StartStage.all (.succeeded module context s) := by
  constructor
  · intro hok
    obtain ⟨attempted, last, hreaches, hend⟩ := r.startReaches_end interpreter m
    rcases last.end_cases hend with ⟨module, context, s, rfl⟩ | ⟨stage, error, held, s, rfl⟩
    · have hall : attempted = StartStage.all := hreaches.in_order
      rw [hall] at hreaches
      exact ⟨module, context, s, hreaches⟩
    · rw [hreaches.tryStart_failed hphase] at hok
      cases hok
  · rintro ⟨module, context, s, hreaches⟩
    rw [hreaches.tryStart_succeeded hphase]

theorem tryStart_error_iff (error : StartError) :
    (r.tryStart interpreter m).1 = .error error ↔
      ∃ attempted stage held s,
        r.StartReaches interpreter m attempted (.failed stage error held s) := by
  constructor
  · intro herror
    obtain ⟨attempted, last, hreaches, hend⟩ := r.startReaches_end interpreter m
    rcases last.end_cases hend with ⟨module, context, s, rfl⟩ | ⟨stage, error', held, s, rfl⟩
    · rw [hreaches.tryStart_succeeded hphase] at herror
      cases herror
    · rw [hreaches.tryStart_failed hphase] at herror
      cases herror
      exact ⟨attempted, stage, held, s, hreaches⟩
  · rintro ⟨attempted, stage, held, s, hreaches⟩
    rw [hreaches.tryStart_failed hphase]

theorem tryStart_emptied {error : StartError}
    (herror : (r.tryStart interpreter m).1 = .error error) :
    (r.tryStart interpreter m).2.1.Emptied := by
  obtain ⟨attempted, stage, held, s, hreaches⟩ := (tryStart_error_iff hphase error).mp herror
  rw [hreaches.tryStart_failed hphase]
  exact emptied_teardown interpreter _ s.machine

theorem Reachable.tryStart_givenBack (h : Reachable interpreter history r m) {error : StartError}
    (herror : (r.tryStart interpreter m).1 = .error error) :
    GivenBack history m (r.tryStart interpreter m).2.2 := by
  have hemptied := tryStart_emptied hphase herror
  -- the start is one more operation of the run, which leaves nothing in the bindings
  have hafter : Reachable interpreter
      (history.following m.journal (r.tryStart interpreter m).2.2.journal)
      (r.tryStart interpreter m).2.1 (r.tryStart interpreter m).2.2 := .performed .tryStart h
  refine ⟨(hafter.sound.lived.at_phase hemptied.phase).settled, ?_, ?_⟩
  · intro f
    rw [hafter.settled f, hemptied.callbacks_eq, List.count_nil, Nat.zero_add]
  · intro t
    have hstep := tryStart_step interpreter.asksOnly_anyCall r m h.sound.lived
    have hsurplus := hstep.accounts.typeSurplus_eq t
    simp only [Scene.typeSurplus, scene, hemptied.arrays, h.arrays_eq hphase] at hsurplus
    omega

end Conclusions

/-- The first stage that fails decides a start, and nothing remains of it then. -/
theorem Reachable.tryStart_decided (h : Reachable interpreter history r m)
    (hphase : r.phase = .uninitialized) : r.Decided interpreter history m := by
  constructor
  case in_order =>
    intro attempted p hreaches
    rw [hreaches.in_order]
    exact List.take_prefix _ _
  case ends =>
    obtain ⟨attempted, last, hreaches, hend⟩ := r.startReaches_end interpreter m
    refine ⟨attempted, last, hreaches, hend, ?_⟩
    intro attempted' p hreaches'
    obtain ⟨rest, hattempted, -⟩ := StartPath.to_end hreaches hend hreaches'
    exact ⟨rest, hattempted.symm⟩
  case recorded => exact fun _ _ hreaches => hreaches.milestones_eq
  case unresolved => exact fun _ _ hreaches hp => hreaches.typesRetained_eq hp
  case succeeds_iff => exact tryStart_ok_iff hphase
  case fails_iff => exact tryStart_error_iff hphase
  case accepts =>
    intro attempted module context outcome s hreaches
    have hsucceeded : r.StartReaches interpreter m _ (.succeeded module context _) :=
      hreaches.trans (.single .resolved)
    rw [hsucceeded.tryStart_succeeded hphase]
  case succeeded => exact fun _ _ _ _ hreaches => hreaches.tryStart_succeeded hphase
  case failed =>
    intro attempted stage error held s hreaches
    obtain ⟨passed, hattempted, hreports⟩ := StartPath.failed_last hreaches rfl
    exact ⟨⟨passed, hattempted⟩, hreports, hreaches.tryStart_failed hphase⟩
  case emptied => exact fun _ herror => tryStart_emptied hphase herror
  case givenBack => exact fun _ herror => h.tryStart_givenBack hphase herror

end Resource

namespace Sample

def outOfMemory : EngineError := ⟨"execute", "out of memory"⟩

/-- The entry point subscribes the greeter, and then the interpreter gives up. -/
def failing : Interpreter Unit :=
  { Sample.interpreter with
    execute := fun _ _ =>
      .called () (.onEvent .playerConnect) .bindings [.function greeter] fun _ _ =>
        .ended () (.error outOfMemory) }

/-- What the failing start has recorded. -/
def failingHistory : Journal :=
  Journal.empty.following machine.journal (startWith failing).2.2.journal

/-- The start fails in its last stage but one, when the greeter has been subscribed.  What it has
taken over is given back. -/
theorem tryStart_decided_failing :
    (startWith failing).1 = .error (.prepare "sample" outOfMemory) ∧
      (∃ passed held s,
        (Resource.new "sample" "main" package Builtin.registry false).StartReaches failing machine
          (passed ++ [.runEntrypoint])
          (.failed .runEntrypoint (.prepare "sample" outOfMemory) held s)) ∧
      (startWith failing).2.1.Emptied ∧
      (failingHistory.viewed Entry.takeover?).count greeter = 1 ∧
      (failingHistory.viewed Entry.released?).count greeter = 1 := by
  have hdecided : (Resource.new "sample" "main" package Builtin.registry false).Decided failing
      .empty machine := Resource.Reachable.tryStart_decided (.created _ _ _ _ _ _) rfl
  have herror : (startWith failing).1 = .error (.prepare "sample" outOfMemory) := by
    with_unfolding_all rfl
  have htaken : (failingHistory.viewed Entry.takeover?).count greeter = 1 := by decide +kernel
  refine ⟨herror, ?_, hdecided.emptied _ herror, htaken, ?_⟩
  · obtain ⟨attempted, stage, held, s, hreaches⟩ := (hdecided.fails_iff _).mp herror
    obtain ⟨⟨passed, rfl⟩, hreports, -⟩ := hdecided.failed _ _ _ _ _ hreaches
    cases hreports
    exact ⟨passed, held, s, hreaches⟩
  · exact ((hdecided.givenBack _ herror).callbacks greeter).symm.trans htaken

end Sample

end ScriptHost
