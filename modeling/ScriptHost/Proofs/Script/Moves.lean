import Mathlib.Logic.Relation
import ScriptHost.Call

/-!
# What a running script can do

A script acts on the scene by few kinds of moves: the interpreter works, it reports, the clock
goes on, and host functions are called.  `ScriptMove` lists them, and every scene that a script
call passes, from the moment its function is prepared until it has returned, is reached by such
moves (`Scene.During.moves`).  What a move keeps, a whole call keeps.
-/

namespace ScriptHost

variable {σ : Type}

/-! ## What scripts ask for -/

/-- Every host call that the run can come to is allowed, whatever the earlier ones answer. -/
def ScriptRun.AsksOnly (allowed : HostFunction → List HostArgument → Prop) :
    ScriptRun σ → Prop
  | .ended .. => True
  | .reported _ next => next.AsksOnly allowed
  | .waited _ next => next.AsksOnly allowed
  | .called _ function _ args resume =>
    allowed function args ∧ ∀ engine result, (resume engine result).AsksOnly allowed

/-- Every host call of every script is allowed. -/
def Interpreter.AsksOnly (interpreter : Interpreter σ)
    (allowed : HostFunction → List HostArgument → Prop) : Prop :=
  ∀ engine context, (interpreter.execute engine context).AsksOnly allowed

/-- No host call is ruled out. -/
def anyCall (_ : HostFunction) (_ : List HostArgument) : Prop := True

theorem ScriptRun.asksOnly_anyCall (run : ScriptRun σ) : run.AsksOnly anyCall := by
  induction run with
  | ended => exact trivial
  | reported _ _ ih => exact ih
  | waited _ _ ih => exact ih
  | called _ _ _ _ _ ih => exact ⟨trivial, ih⟩

theorem Interpreter.asksOnly_anyCall (interpreter : Interpreter σ) :
    interpreter.AsksOnly anyCall :=
  fun _ _ => ScriptRun.asksOnly_anyCall _

/-! ## Moves -/

/-- One thing that a running script does. -/
inductive ScriptMove (interpreter : Interpreter σ)
    (allowed : HostFunction → List HostArgument → Prop) : Scene σ → Scene σ → Prop
  | work (s : Scene σ) (engine : σ) : ScriptMove interpreter allowed s (s.setEngine engine)
  | report (s : Scene σ) (report : Report) :
      ScriptMove interpreter allowed s (s.record (.reported report))
  | wait (s : Scene σ) (offset : Int) :
      ScriptMove interpreter allowed s
        { s with machine := { s.machine with now := s.machine.now.shift offset } }
  | hostCall (s : Scene σ) (function : HostFunction) (userData : UserData)
      (args : List HostArgument) (h : allowed function args) :
      ScriptMove interpreter allowed s (function.runCounted interpreter userData args s).2

/-- Any number of moves. -/
abbrev ScriptMoves (interpreter : Interpreter σ)
    (allowed : HostFunction → List HostArgument → Prop) : Scene σ → Scene σ → Prop :=
  Relation.ReflTransGen (ScriptMove interpreter allowed)

variable {interpreter : Interpreter σ} {allowed : HostFunction → List HostArgument → Prop}

/-- The scenes that a script run passes while it is followed. -/
inductive ScriptRun.Passes (interpreter : Interpreter σ) :
    ScriptRun σ → Scene σ → Scene σ → Prop
  | here (run : ScriptRun σ) (s : Scene σ) : Passes interpreter run s s
  | ended (engine : σ) (result : Except EngineError Outcome) (s : Scene σ) :
      Passes interpreter (.ended engine result) s (s.setEngine engine)
  | reported {report : Report} {next : ScriptRun σ} {s t : Scene σ}
      (h : Passes interpreter next (s.record (.reported report)) t) :
      Passes interpreter (.reported report next) s t
  | waited {offset : Int} {next : ScriptRun σ} {s t : Scene σ}
      (h : Passes interpreter next
        { s with machine := { s.machine with now := s.machine.now.shift offset } } t) :
      Passes interpreter (.waited offset next) s t
  | called {engine : σ} {function : HostFunction} {userData : UserData}
      {args : List HostArgument} {resume : σ → HostResult → ScriptRun σ} {result : HostResult}
      {s u t : Scene σ}
      (hcall : function.runCounted interpreter userData args (s.setEngine engine) = (result, u))
      (h : Passes interpreter (resume u.machine.engine result) u t) :
      Passes interpreter (.called engine function userData args resume) s t

/-- The scene at the end of a run is one that it passes. -/
theorem ScriptRun.passes_follow (run : ScriptRun σ) (s : Scene σ) :
    run.Passes interpreter s (run.follow interpreter s).2 := by
  induction run generalizing s with
  | ended engine result => exact .ended engine result s
  | reported report next ih => exact .reported (ih _)
  | waited offset next ih => exact .waited (ih _)
  | called engine function userData args resume ih =>
    rcases hcall : function.runCounted interpreter userData args (s.setEngine engine)
      with ⟨result, u⟩
    simp only [follow, hcall]
    exact .called hcall (ih _ _ u)

theorem ScriptRun.Passes.moves {run : ScriptRun σ} {s t : Scene σ}
    (h : run.Passes interpreter s t) (hasks : run.AsksOnly allowed) :
    ScriptMoves interpreter allowed s t := by
  -- the induction is on the way through the run, which says what remains to be followed
  induction h with
  | here run s => exact .refl
  | ended engine result s => exact .single (.work s engine)
  | reported h ih => exact .head (.report _ _) (ih hasks)
  | waited h ih => exact .head (.wait _ _) (ih hasks)
  | @called engine function userData args resume result s u t hcall h ih =>
    have hmove : ScriptMove interpreter allowed (s.setEngine engine) _ :=
      .hostCall (s.setEngine engine) function userData args hasks.1
    rw [hcall] at hmove
    exact .head (.work s engine) (.head hmove (ih (hasks.2 _ _)))

/-! ## Calls -/

namespace Scene

theorem bindArgument_moves (context : ContextHandle) (index : Nat) (argument : Argument)
    (s : Scene σ) :
    ScriptMove interpreter allowed s (s.bindArgument interpreter context index argument).2 := by
  unfold bindArgument
  exact .work s _

theorem bindArguments_moves (context : ContextHandle) (index : Nat) (args : List Argument)
    (s : Scene σ) :
    ScriptMoves interpreter allowed s (s.bindArguments interpreter context index args).2 := by
  induction args generalizing index s with
  | nil => exact .refl
  | cons argument rest ih =>
    have hfirst : ScriptMove interpreter allowed s _ :=
      bindArgument_moves context index argument s
    unfold bindArguments
    rcases hbind : s.bindArgument interpreter context index argument with ⟨_ | _, u⟩
    · rw [hbind] at hfirst
      exact .single hfirst
    · rw [hbind] at hfirst
      exact .head hfirst (ih _ u)

/-- The scenes of a script call, from the moment at which its function is prepared until its
execution has returned. -/
inductive During (interpreter : Interpreter σ) (context : ContextHandle) (cause : CallCause)
    (function : FunctionHandle) (args : List Argument) (s : Scene σ) : Scene σ → Prop
  | preparing :
      During interpreter context cause function args s (s.record (.called cause function args))
  /-- The first arguments are bound. -/
  | binding {engine : σ} (count : Nat)
      (hprepare : interpreter.prepare s.machine.engine context function = (.ok (), engine)) :
      During interpreter context cause function args s
        (((s.record (.called cause function args)).setEngine engine).bindArguments interpreter
          context 0 (args.take count)).2
  | executing {engine : σ} {u t : Scene σ}
      (hprepare : interpreter.prepare s.machine.engine context function = (.ok (), engine))
      (hbind : ((s.record (.called cause function args)).setEngine engine).bindArguments
        interpreter context 0 args = (.ok (), u))
      (hpasses : (interpreter.execute u.machine.engine context).Passes interpreter u t) :
      During interpreter context cause function args s t
  | returned :
      During interpreter context cause function args s
        (s.call interpreter context cause function args).2

variable {context : ContextHandle} {cause : CallCause} {function : FunctionHandle}
  {args : List Argument}

/-! What a call comes to: its function is not prepared, or an argument is not bound, or it runs. -/

theorem call_unprepared {s : Scene σ} {e : EngineError} {engine : σ}
    (hprepare : interpreter.prepare s.machine.engine context function = (.error e, engine)) :
    s.call interpreter context cause function args
      = (.error e, (s.record (.called cause function args)).setEngine engine) := by
  unfold call
  simp [hprepare, record]

theorem call_unbound {s u : Scene σ} {e : EngineError} {engine : σ}
    (hprepare : interpreter.prepare s.machine.engine context function = (.ok (), engine))
    (hbind : ((s.record (.called cause function args)).setEngine engine).bindArguments
      interpreter context 0 args = (.error e, u)) :
    s.call interpreter context cause function args = (.error e, u) := by
  unfold call
  simp only [record, Machine.engine_record, hprepare] at hbind ⊢
  rw [hbind]

theorem call_executed {s u : Scene σ} {engine : σ}
    (hprepare : interpreter.prepare s.machine.engine context function = (.ok (), engine))
    (hbind : ((s.record (.called cause function args)).setEngine engine).bindArguments
      interpreter context 0 args = (.ok (), u)) :
    s.call interpreter context cause function args
      = (interpreter.execute u.machine.engine context).follow interpreter u := by
  unfold call
  simp only [record, Machine.engine_record, hprepare] at hbind ⊢
  rw [hbind]

theorem call_moves (hasks : interpreter.AsksOnly allowed) (s : Scene σ) :
    ScriptMoves interpreter allowed (s.record (.called cause function args))
      (s.call interpreter context cause function args).2 := by
  rcases hprepare : interpreter.prepare s.machine.engine context function with ⟨_ | _, engine⟩
  · rw [call_unprepared hprepare]
    exact .single (.work _ engine)
  · have hargs : ScriptMoves interpreter allowed _ _ := bindArguments_moves context 0 args
      ((s.record (.called cause function args)).setEngine engine)
    rcases hbind : ((s.record (.called cause function args)).setEngine engine).bindArguments
      interpreter context 0 args with ⟨_ | _, u⟩
    · rw [hbind] at hargs
      rw [call_unbound hprepare hbind]
      exact .head (.work _ engine) hargs
    · rw [hbind] at hargs
      rw [call_executed hprepare hbind]
      have hpasses : (interpreter.execute u.machine.engine context).Passes interpreter u _ :=
        ScriptRun.passes_follow _ u
      exact .head (.work _ engine) (hargs.trans (hpasses.moves (hasks _ _)))

/-- Whatever happens during a call is done by moves of its script. -/
theorem During.moves {s t : Scene σ} (hasks : interpreter.AsksOnly allowed)
    (h : During interpreter context cause function args s t) :
    ScriptMoves interpreter allowed (s.record (.called cause function args)) t := by
  cases h with
  | preparing => exact .refl
  | binding count hprepare => exact .head (.work _ _) (bindArguments_moves context 0 _ _)
  | @executing engine u t hprepare hbind hpasses =>
    have hargs : ScriptMoves interpreter allowed _ _ := bindArguments_moves context 0 args
      ((s.record (.called cause function args)).setEngine engine)
    rw [hbind] at hargs
    exact .head (.work _ _) (hargs.trans (hpasses.moves (hasks _ _)))
  | returned => exact call_moves hasks s

end Scene

end ScriptHost
