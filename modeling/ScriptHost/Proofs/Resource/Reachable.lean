import ScriptHost.Event.Builtin
import ScriptHost.Proofs.Resource.Step

/-!
# Runs of a resource

`Reachable` is every run of one resource: its operations in any order, and between them whatever
else happens to the machine that it shares with others.  What the resource itself has done is kept
in its history.  `Sound` is the invariant that ties the two together:

* the milestones in the history are those of a life that fits the phase;
* the handlers are the subscriptions, until the resource is stopped;
* the references taken cover the entries of the bindings, and the timers are numbered in order.

`Reachable.sound` derives it from `perform_step` by induction on the run.
-/

namespace ScriptHost

variable {σ : Type}

/-! ## Histories and scenes -/

/-- The history of a resource covers its bindings. -/
structure Journal.Covers (history : Journal) (bindings : Bindings) : Prop where
  wellFormed : bindings.timers.WellFormed
  owned : ∀ f, (bindings.callbacks.count f : Int) ≤ history.functionBalance f
  numbered : history.creations < UInt32.size - 1 → bindings.timers.Numbered history.creations

namespace Journal.Covers

variable {allowed : HostFunction → List HostArgument → Prop} {history : Journal}
  {s t u : Scene σ}

theorem empty (resource : String) : Journal.empty.Covers (.new resource) :=
  ⟨TimerTable.wellFormed_empty, fun _ => Int.le_refl 0, fun _ => TimerTable.numbered_empty⟩

/-- What accounts for all references keeps the bindings covered. -/
theorem step (h : history.Covers s.bindings) (haccounts : s.Accounts allowed t) :
    (history.following s.machine.journal t.machine.journal).Covers t.bindings := by
  refine ⟨haccounts.wellFormed h.wellFormed, ?_, ?_⟩
  · intro f
    have hbalance := history.functionBalance_following f haccounts.grows
    have hsurplus := haccounts.surplus_le h.wellFormed f
    have howned := h.owned f
    unfold Scene.surplus at hsurplus
    omega
  · intro hbound
    have hcreations := history.creations_following haccounts.grows
    have hle := Scene.creations_le haccounts.grows
    have hcreated : (history.following s.machine.journal t.machine.journal).creations
        = history.creations + s.created t := by
      unfold Scene.created
      omega
    rw [hcreated] at hbound ⊢
    exact haccounts.numbered _ (h.numbered (by omega)) hbound

/-- An entry that is there at some point is still there later, while the scene is continued. -/
theorem pins (h : history.Covers s.bindings) (haccounts : s.Accounts allowed t)
    (hcontinues : t.Continues allowed u)
    (hbound : (history.following s.machine.journal u.machine.journal).creations < UInt32.size - 1)
    {cause : CallCause} {f : FunctionHandle} (hpins : t.bindings.Pins cause f) :
    u.bindings.Pins cause f := by
  have hcreated := history.creations_following haccounts.grows
  have hlater := history.creations_following (haccounts.grows.trans hcontinues.grows)
  have hle := Scene.creations_le haccounts.grows
  have hle' := Scene.creations_le hcontinues.grows
  have hnumbered := (h.step haccounts).numbered (by omega)
  refine hcontinues.pins hnumbered ?_ hpins
  unfold Scene.created
  omega

end Journal.Covers

namespace Resource

/-! ## Runs -/

/-- The runs of a resource, with its history: it is created, operations are performed on it, and
between them anything can become of the machine. -/
inductive Reachable (interpreter : Interpreter σ) : Journal → Resource σ → Machine σ → Prop
  | created (name main : String) (package : Package σ) (registry : EventRegistry)
      (withStack : Bool) (m : Machine σ) :
      Reachable interpreter .empty (.new name main package registry withStack) m
  | performed {history : Journal} {r : Resource σ} {m : Machine σ} (operation : Operation)
      (h : Reachable interpreter history r m) :
      Reachable interpreter
        (history.following m.journal (r.perform interpreter operation m).2.2.journal)
        (r.perform interpreter operation m).2.1 (r.perform interpreter operation m).2.2
  | elsewhere {history : Journal} {r : Resource σ} {m : Machine σ} (m' : Machine σ)
      (h : Reachable interpreter history r m) : Reachable interpreter history r m'

/-- The history of a resource fits what the resource is and holds. -/
structure Sound (history : Journal) (r : Resource σ) : Prop where
  lived : r.Lived (history.viewed Entry.milestone?)
  subscribed : r.phase ≠ .stopped → r.bindings.handlers = history.subscriptions
  covers : history.Covers r.bindings

variable {interpreter : Interpreter σ} {history : Journal} {r : Resource σ} {m : Machine σ}

/-- A stopped resource stays stopped. -/
theorem PhaseStep.ne_stopped {phase phase' : Phase} (h : PhaseStep phase phase')
    (hphase : phase' ≠ .stopped) : phase ≠ .stopped := by
  cases h with
  | same => exact hphase
  | started => exact fun h => by cases h
  | abandoned | stopped => exact absurd rfl hphase

theorem Sound.step (h : Sound history r) {allowed : HostFunction → List HostArgument → Prop}
    {r' : Resource σ} {m' : Machine σ}
    (hstep : Step allowed (history.viewed Entry.milestone?) r m r' m') :
    Sound (history.following m.journal m'.journal) r' := by
  have hgrows : m.journal.Grows (fun _ => True) m'.journal := hstep.accounts.grows
  constructor
  · rcases hstep.lived with ⟨shown, hshown, hlived⟩
    rw [history.viewed_following hgrows hshown]
    exact hlived
  · intro hphase
    -- the resource was not stopped before either, so the handlers were the subscriptions
    rcases hstep.subscribes hphase with ⟨added, hadded, hsubscribed⟩
    have hbefore := h.subscribed (hstep.phase.ne_stopped hphase)
    have hafter : (history.following m.journal m'.journal).subscriptions
        = history.subscriptions ++ added := history.viewed_following hgrows hsubscribed
    rw [hafter, ← hbefore]
    exact hadded
  · exact h.covers.step hstep.accounts

theorem Reachable.sound (h : Reachable interpreter history r m) : Sound history r := by
  induction h with
  | created name main package registry withStack m =>
    exact ⟨.fresh, fun _ => rfl, .empty name⟩
  | @performed history r m operation _ ih =>
    -- nothing is assumed about scripts here: they may call whatever they like
    have hstep := perform_step interpreter.asksOnly_anyCall r m operation.asks_anyCall ih.lived
    exact ih.step hstep
  | elsewhere _ _ ih => exact ih

end Resource

/-! ## A sample run

A resource with one function: whenever it is called, it subscribes itself to players that connect.
-/

namespace Sample

def greeter : FunctionHandle := ⟨"greet", "void greet(IPlayer@)"⟩

/-- Every source compiles to the module whose entry point is the greeter. -/
def interpreter : Interpreter Unit where
  registerCallbackType _ _ := (.ok (), ())
  registerFunction _ _ _ := (.ok (), ())
  startModule _ _ := (.ok (), ())
  addSection _ _ _ := (.ok (), ())
  build _ := .compiled () ⟨"sample", some greeter, fun _ => none, fun type => some ⟨type⟩⟩
  discardModule _ _ := ()
  createContext _ := (⟨0⟩, ())
  releaseContext _ _ := ()
  prepare _ _ _ := (.ok (), ())
  bindScalar _ _ _ _ := (.ok (), ())
  bindObject _ _ _ _ := (.ok (), ())
  execute _ _ :=
    .called () (.onEvent .playerConnect) .bindings [.function greeter] fun _ _ =>
      .ended () (.ok .finished)
  returnByte _ _ := 0
  createArray _ _ _ := (.ok .null, ())

/-- Every file is empty. -/
def package : Package Unit where
  fileExists _ _ := true
  openFile _ _ := (some ⟨1⟩, ())
  fileSize _ _ := 0
  readChunk _ _ _ := (([], 0), ())
  closeFile _ _ := ()

def machine : Machine Unit := ⟨(), ⟨0⟩, .empty⟩

/-- The resource after its start. -/
def started : Resource Unit :=
  ((Resource.new "sample" "main" package Builtin.registry false).tryStart interpreter machine).2.1

/-- The machine after the start. -/
def after : Machine Unit :=
  ((Resource.new "sample" "main" package Builtin.registry false).tryStart interpreter machine).2.2

/-- What the start has recorded. -/
def history : Journal := Journal.empty.following machine.journal after.journal

theorem reachable : Resource.Reachable interpreter history started after :=
  .performed .tryStart (.created "sample" "main" package Builtin.registry false machine)

/-- The start of the same resource with any interpreter. -/
def startWith (interpreter : Interpreter Unit) :
    Except StartError Unit × Resource Unit × Machine Unit :=
  (Resource.new "sample" "main" package Builtin.registry false).tryStart interpreter machine

theorem reachable_startWith (interpreter : Interpreter Unit) :
    Resource.Reachable interpreter
      (Journal.empty.following machine.journal (startWith interpreter).2.2.journal)
      (startWith interpreter).2.1 (startWith interpreter).2.2 :=
  .performed .tryStart (.created "sample" "main" package Builtin.registry false machine)

theorem started_phase : started.phase = .running := by decide +kernel

theorem started_context : started.context = some ⟨0⟩ := by decide +kernel

theorem started_registry : started.registry = Builtin.registry := by with_unfolding_all rfl

theorem subscribersOf_history : history.subscribersOf .playerConnect = [greeter] := by
  decide +kernel

end Sample

end ScriptHost
