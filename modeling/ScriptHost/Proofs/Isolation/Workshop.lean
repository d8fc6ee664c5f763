import ScriptHost.Proofs.Isolation.Tenancy
import ScriptHost.Proofs.Resource.Reachable

/-!
# An interpreter with tenants

An interpreter for any number of modules.  Contexts and files are numbered by common counters, the
module begun last is kept in one place, and scripts behave by how often they were called in their
context.  Its tenants share nothing that they can see (`Workshop.isolated`).
-/

namespace ScriptHost.Sample

/-- The state of an interpreter for many modules.  Contexts and files are numbered by common
counters, and the name of the module begun last is kept in one place. -/
structure Workshop where
  contexts : Nat := 0
  files : UInt32 := 0
  draft : String := ""
  /-- How many calls were made in a context. -/
  calls : Nat → Nat := fun _ => 0

namespace Workshop

def called (e : Workshop) (context : ContextHandle) : Workshop :=
  { e with calls := fun id => if id = context.id then e.calls id + 1 else e.calls id }

/-- The first call in a context subscribes to an event; later ones tell how many there were. -/
def script (e : Workshop) (context : ContextHandle) : ScriptRun Workshop :=
  if e.calls context.id = 0 then
    .called (e.called context) (.onEvent .playerConnect) .bindings [.function greeter] fun e _ =>
      .ended e (.ok .finished)
  else
    .called (e.called context) .log .bindings
      [.object (.string (toString (e.calls context.id)))] fun e _ => .ended e (.ok .finished)

def interpreter : Interpreter Workshop where
  registerCallbackType e _ := (.ok (), e)
  registerFunction e _ _ := (.ok (), e)
  startModule e name := (.ok (), { e with draft := name })
  addSection e _ _ := (.ok (), e)
  build e := .compiled e ⟨e.draft, some greeter, fun _ => none, fun type => some ⟨type⟩⟩
  discardModule e _ := e
  createContext e :=
    (⟨e.contexts⟩,
      { e with
        contexts := e.contexts + 1
        calls := fun id => if id = e.contexts then 0 else e.calls id })
  releaseContext e _ := e
  prepare e _ _ := (.ok (), e)
  bindScalar e _ _ _ := (.ok (), e)
  bindObject e _ _ _ := (.ok (), e)
  execute := script
  returnByte e context := .ofNat (e.calls context.id)
  createArray e type items := (.ok (.script (.array type.declaration items)), e)

/-- Every file is empty. -/
def package : Package Workshop where
  fileExists _ _ := true
  openFile e _ := (some ⟨e.files⟩, { e with files := e.files + 1 })
  fileSize _ _ := 0
  readChunk e _ _ := (([], 0), e)
  closeFile e _ := e

/-- What a hand shows: the module under way, if it is its own, and the calls in its context. -/
def shown (e : Workshop) (hand : Hand) : Option String × Option Nat :=
  (if hand.drafting then some e.draft else none, hand.context?.map (e.calls ·.id))

/-- A context that has been created. -/
def Knows (e : Workshop) (hand : Hand) : Prop :=
  ∀ context, hand.context? = some context → context.id < e.contexts

instance (e : Workshop) (hand : Hand) : Decidable (e.Knows hand) :=
  match h : hand.context? with
  | none => .isTrue (by rw [Knows, h]; nofun)
  | some context =>
    decidable_of_iff (context.id < e.contexts) (by simp [Knows, h])

def tenancy : Tenancy Workshop where
  View := Option String × Option Nat
  view _ s := if s.engine.Knows s.hand then some (s.engine.shown s.hand) else none
  name := id
  package _ := package
  owns _ _ := True
  ownsType _ _ := True

theorem alike_iff {slot : String} {s s' : Seat Workshop} :
    tenancy.Alike slot s s' ↔ s.engine.Knows s.hand ∧ s'.engine.Knows s'.hand ∧
      s.engine.shown s.hand = s'.engine.shown s'.hand := by
  unfold Tenancy.Alike tenancy
  by_cases h : s.engine.Knows s.hand <;> by_cases h' : s'.engine.Knows s'.hand <;>
    simp [h, h', eq_comm]

/-- The state goes over into another, and only what is in the hand may be new or different. -/
structure Goes (e : Workshop) (hand : Hand) (e' : Workshop) (hand' : Hand) : Prop where
  contexts : e.contexts ≤ e'.contexts
  calls : ∀ id, id < e.contexts → (∀ context, hand.context? = some context → context.id ≠ id) →
    e'.calls id = e.calls id
  knows : e'.Knows hand'
  known : ∀ context, hand'.context? = some context →
    hand.context? = some context ∨ e.contexts ≤ context.id

theorem Goes.unseen {e e' : Workshop} {hand hand' : Hand} (h : e.Goes hand e' hand')
    (slot : String) : tenancy.Unseen slot ⟨e, hand⟩ ⟨e', hand'⟩ := by
  intro other _ held hrest hvalid hapart
  have hknown : e.Knows held := (alike_iff.mp hvalid).1
  have hcalls : ∀ context, held.context? = some context →
      e'.calls context.id = e.calls context.id := by
    intro context hcontext
    refine h.calls _ (hknown context hcontext) ?_
    rintro ⟨id⟩ hown rfl
    exact hapart _ hown hcontext
  have hknown' : e'.Knows held := fun context hcontext =>
    Nat.lt_of_lt_of_le (hknown context hcontext) h.contexts
  refine ⟨?_, ?_⟩
  · intro context hcontext hheld
    rcases h.known context hcontext with hown | hnew
    · exact hapart context hown hheld
    · exact absurd (hknown context hheld) (Nat.not_lt.mpr hnew)
  · have hshown : e'.shown held = e.shown held := by
      unfold shown
      rw [hrest.notDrafting]
      cases hcontext : held.context? with
      | none => rfl
      | some context => simp [hcalls context hcontext]
    simp only [tenancy, if_pos hknown, if_pos hknown', hshown]

theorem moved {slot : String} {e e' d d' : Workshop} {hand hand' held held' : Hand}
    (h : e.Goes hand d held) (h' : e'.Goes hand' d' held')
    (hshown : d.shown held = d'.shown held') :
    tenancy.Moved slot ⟨e, hand⟩ ⟨e', hand'⟩ ⟨d, held⟩ ⟨d', held'⟩ :=
  ⟨alike_iff.mpr ⟨h.knows, h'.knows, hshown⟩, h.unseen slot, h'.unseen slot⟩

/-- Nothing that others can see changes, and no context comes into the hand. -/
structure Keeps (e : Workshop) (hand : Hand) (d : Workshop) (held : Hand) : Prop where
  contexts : d.contexts = e.contexts
  calls : d.calls = e.calls
  held : held.context? = hand.context? ∨ held.context? = none

theorem Keeps.goes {e d : Workshop} {hand held : Hand} (h : e.Keeps hand d held)
    (hknows : e.Knows hand) : e.Goes hand d held := by
  refine ⟨Nat.le_of_eq h.contexts.symm, fun _ _ _ => by rw [h.calls], ?_, ?_⟩
  · intro context hcontext
    rcases h.held with hheld | hheld
    · rw [h.contexts]
      exact hknows context (hheld ▸ hcontext)
    · rw [hheld] at hcontext
      cases hcontext
  · intro context hcontext
    rcases h.held with hheld | hheld
    · exact Or.inl (hheld ▸ hcontext)
    · rw [hheld] at hcontext
      cases hcontext

theorem moved_of_keeps {slot : String} {e e' d d' : Workshop} {hand hand' held held' : Hand}
    (h : tenancy.Alike slot ⟨e, hand⟩ ⟨e', hand'⟩) (hd : e.Keeps hand d held)
    (hd' : e'.Keeps hand' d' held') (hshown : d.shown held = d'.shown held') :
    tenancy.Moved slot ⟨e, hand⟩ ⟨e', hand'⟩ ⟨d, held⟩ ⟨d', held'⟩ := by
  obtain ⟨hknows, hknows', -⟩ := alike_iff.mp h
  exact moved (hd.goes hknows) (hd'.goes hknows') hshown

theorem calls_eq {slot : String} {e e' : Workshop} {hand hand' : Hand}
    (h : tenancy.Alike slot ⟨e, hand⟩ ⟨e', hand'⟩) {context context' : ContextHandle}
    (hcontext : hand.context? = some context) (hcontext' : hand'.context? = some context') :
    e.calls context.id = e'.calls context'.id := by
  have hshown := congrArg Prod.snd (alike_iff.mp h).2.2
  simpa [shown, hcontext, hcontext'] using hshown

theorem goes_called {e : Workshop} {hand : Hand} (hknows : e.Knows hand) {context : ContextHandle}
    (hcontext : hand.context? = some context) : e.Goes hand (e.called context) hand := by
  refine ⟨Nat.le_refl _, ?_, hknows, fun _ h => Or.inl h⟩
  intro id _ hother
  exact if_neg fun h => hother context hcontext h.symm

theorem moved_called {slot : String} {e e' : Workshop} {hand hand' : Hand}
    (h : tenancy.Alike slot ⟨e, hand⟩ ⟨e', hand'⟩) {context context' : ContextHandle}
    (hcontext : hand.context? = some context) (hcontext' : hand'.context? = some context') :
    tenancy.Moved slot ⟨e, hand⟩ ⟨e', hand'⟩ ⟨e.called context, hand⟩
      ⟨e'.called context', hand'⟩ := by
  obtain ⟨hknows, hknows', hshown⟩ := alike_iff.mp h
  have hdraft := congrArg Prod.fst hshown
  refine moved (goes_called hknows hcontext) (goes_called hknows' hcontext') (Prod.ext hdraft ?_)
  simp [shown, called, hcontext, hcontext', calls_eq h hcontext hcontext']

theorem script_abreast {slot : String} {e e' : Workshop} {hand hand' : Hand}
    (h : tenancy.Alike slot ⟨e, hand⟩ ⟨e', hand'⟩) {context context' : ContextHandle}
    (hcontext : hand.context? = some context) (hcontext' : hand'.context? = some context') :
    ScriptRun.Abreast tenancy slot hand hand' e e' (e.script context) (e'.script context') := by
  have hmoved := moved_called h hcontext hcontext'
  unfold script
  rw [calls_eq h hcontext hcontext']
  split <;>
    exact .called _ _ _ (fun _ _ => trivial) hmoved fun _ _ _ hend => .ended _ (.refl hend)

/-- A context that is created is new to all hands. -/
theorem goes_createContext (e : Workshop) (hand : Hand) :
    e.Goes hand (interpreter.createContext e).2
      { hand with context? := some (interpreter.createContext e).1 } := by
  refine ⟨Nat.le_succ _, fun id hid _ => if_neg (Nat.ne_of_lt hid), ?_, ?_⟩
  · rintro _ ⟨⟩
    exact Nat.lt_succ_self _
  · rintro _ ⟨⟩
    exact Or.inr (Nat.le_refl _)

/-- The modules share their counters, and yet nothing. -/
theorem isolated : tenancy.Isolated interpreter := by
  rintro slot ⟨e, hand⟩ ⟨e', hand'⟩ h
  obtain ⟨-, -, hshown⟩ := alike_iff.mp h
  have hdraft := congrArg Prod.fst hshown
  constructor
  case openFile =>
    intro _ _ path
    exact ⟨_, _, _, _, rfl, rfl, rfl,
      moved_of_keeps h ⟨rfl, rfl, Or.inl rfl⟩ ⟨rfl, rfl, Or.inl rfl⟩ hshown⟩
  case closeFile =>
    intro _ _ _ _
    exact moved_of_keeps h ⟨rfl, rfl, Or.inl rfl⟩ ⟨rfl, rfl, Or.inl rfl⟩ hshown
  case discardModule =>
    intro _ _ _
    exact moved_of_keeps h ⟨rfl, rfl, Or.inl rfl⟩ ⟨rfl, rfl, Or.inl rfl⟩ hshown
  case releaseContext =>
    intro _ _ _ _
    exact moved_of_keeps h ⟨rfl, rfl, Or.inr rfl⟩ ⟨rfl, rfl, Or.inr rfl⟩ (Prod.ext hdraft rfl)
  case startModule =>
    rintro ⟨⟩ ⟨⟩
    exact ⟨rfl, moved_of_keeps h ⟨rfl, rfl, Or.inl rfl⟩ ⟨rfl, rfl, Or.inl rfl⟩ rfl⟩
  case addSection =>
    rintro ⟨⟩ ⟨⟩ _ _
    exact ⟨rfl, .refl h⟩
  case build =>
    rintro ⟨⟩ ⟨⟩
    -- the module under way is the one that this resource has begun
    have hname : e.draft = e'.draft := Option.some.inj hdraft
    unfold interpreter
    simp only
    rw [hname]
    refine .compiled _ ⟨fun _ _ => trivial, fun _ _ _ => trivial, fun _ _ _ => trivial⟩ ?_
    exact moved_of_keeps h ⟨rfl, rfl, Or.inl rfl⟩ ⟨rfl, rfl, Or.inl rfl⟩ rfl
  case createContext =>
    intro _ _
    refine moved (goes_createContext e hand) (goes_createContext e' hand') (Prod.ext hdraft ?_)
    simp [shown, interpreter]
  case execute =>
    intro _ _ hcontext hcontext'
    exact script_abreast h hcontext hcontext'
  case returnByte =>
    intro _ _ hcontext hcontext'
    exact congrArg UInt8.ofNat (calls_eq h hcontext hcontext')
  case fileSize => exact fun _ _ => rfl
  case readChunk => exact fun _ _ _ => ⟨rfl, .refl h⟩
  case prepare => exact fun _ _ _ _ => ⟨rfl, .refl h⟩
  case bindScalar => exact fun _ _ _ _ => ⟨rfl, .refl h⟩
  case bindObject => exact fun _ _ _ _ => ⟨rfl, .refl h⟩
  case createArray => exact fun _ _ => ⟨rfl, .refl h⟩

theorem valid (e : Workshop) (slot : String) : tenancy.Valid slot ⟨e, {}⟩ :=
  alike_iff.mpr ⟨nofun, nofun, rfl⟩

end Workshop

end ScriptHost.Sample
