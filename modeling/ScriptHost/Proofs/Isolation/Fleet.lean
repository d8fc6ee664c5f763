import ScriptHost.Proofs.Fleet.Turns
import ScriptHost.Proofs.Isolation.Resource
import ScriptHost.Proofs.Isolation.Workshop

/-!
# The resources of a host do not interfere

What the turns of a slot show is the same in any run of a host as in the run from which the turns of
all other slots have been deleted (`Fleet.noninterference`), and no turn touches a resource in
another slot or a reference that is held for it.

The proof follows the two runs side by side.  A turn of the slot is a turn in both, and they keep to
`Tenancy.FleetsAgree`.  A turn of another slot is a turn in one of them only; it is compared with
itself, which tells that the resource in the slot does not see it.
-/

namespace ScriptHost

variable {σ : Type}

/-! ## What is observed -/

/-- What a turn shows: the answer of the operation, all that is recorded on the way, calls of script
functions with their arguments among it, and the bindings afterwards. -/
structure Observation where
  answer : Option Answer
  entries : List Entry
  bindings : Option Bindings

namespace Fleet

/-- What a turn shows, but for the numbers that open files happen to have. -/
def observe (fleet : Fleet σ) (turn : Turn σ) : Observation where
  answer := (fleet.take turn).1
  entries := (fleet.machine.journal.since (fleet.take turn).2.machine.journal).map
    Entry.unnumbered
  bindings := ((fleet.take turn).2.member? turn.slot).map (·.bindings)

/-- What the turns of a slot show in a run, in order. -/
def observed (slot : String) : List (Turn σ) → Fleet σ → List Observation
  | [], _ => []
  | turn :: rest, fleet =>
    if turn.slot = slot then fleet.observe turn :: observed slot rest (fleet.take turn).2
    else observed slot rest (fleet.take turn).2

end Fleet

/-- The host does it, and the resource that it makes is the tenant of the slot. -/
def Act.Regular (T : Tenancy σ) (slot : String) : Act σ → Prop
  | create name _ package => name = T.name slot ∧ package = T.package slot
  | operate operation => operation.ByHost
  | drop => True

theorem Act.Regular.byHost {T : Tenancy σ} {slot : String} {act : Act σ}
    (h : act.Regular T slot) : act.ByHost := by
  cases act with
  | operate operation => exact h
  | create | drop => exact trivial

/-- What the resource in a slot holds of the interpreter. -/
def handOf : Option (Resource σ) → Hand
  | some r => r.hand
  | none => {}

theorem handOf_atRest (r? : Option (Resource σ)) : (handOf r?).AtRest := by
  cases r? <;> exact ⟨rfl, rfl⟩

/-- A slot of a fleet at the interpreter. -/
def Fleet.seat (fleet : Fleet σ) (slot : String) : Seat σ :=
  ⟨fleet.machine.engine, handOf (fleet.member? slot)⟩

/-! ## Two runs of one slot -/

namespace Tenancy

variable {T : Tenancy σ} {host : Host σ} {slot : String} {o : Outset σ}
  {r? r'? : Option (Resource σ)} {m m' : Machine σ} {fleet fleet' : Fleet σ}

/-- A slot is empty in two runs, or has the same resource in both. -/
inductive Likewise (T : Tenancy σ) (slot : String) :
    Option (Resource σ) → Option (Resource σ) → Prop
  | empty : Likewise T slot none none
  | taken {r r' : Resource σ} (h : T.Twins slot r r') : Likewise T slot (some r) (some r')

theorem Likewise.bindings_eq (h : T.Likewise slot r? r'?) :
    r'?.map (·.bindings) = r?.map (·.bindings) := by
  cases h with
  | empty => rfl
  | taken htwins => exact congrArg some htwins.bindings

theorem Likewise.left (h : T.Likewise slot r? r'?) : T.Likewise slot r? r? := by
  cases h with
  | empty => exact .empty
  | taken htwins => exact .taken htwins.left

/-- What a slot and the machine have become since two runs began. -/
structure SlotsAgree (T : Tenancy σ) (slot : String) (o : Outset σ)
    (p p' : Option (Resource σ) × Machine σ) : Prop where
  members : T.Likewise slot p.1 p'.1
  machines : T.MachinesAgree slot o (handOf p.1) (handOf p'.1) p.2 p'.2

theorem twins_new (main : String) (registry : EventRegistry) (withStack : Bool) :
    T.Twins slot (.new (T.name slot) main (T.package slot) registry withStack)
      (.new (T.name slot) main (T.package slot) registry withStack) :=
  .of_idle rfl rfl (.new _) rfl rfl

theorem run_act_agree (hT : T.Isolated host.interpreter) {act : Act σ} (hact : act.Regular T slot)
    (h : T.SlotsAgree slot o (r?, m) (r'?, m')) :
    SameAnswer (T.SlotsAgree slot o) (act.run host r? m) (act.run host r'? m') := by
  have hmembers : T.Likewise slot r? r'? := h.members
  have hmachines := h.machines
  cases hmembers with
  | empty =>
    cases act with
    | create name main package =>
      obtain ⟨rfl, rfl⟩ := hact
      exact .intro _ ⟨.taken (twins_new _ _ _), hmachines.log _⟩
    | operate | drop => exact .intro _ h
  | taken htwins =>
    rename_i r r'
    have hagree : T.ResourcesAgree slot o (r, m) (r', m') := ⟨htwins, hmachines⟩
    cases act with
    | create name main package =>
      obtain ⟨rfl, rfl⟩ := hact
      exact .intro _ ⟨.taken (twins_new _ _ _), drop_agree hT (hagree.log _)⟩
    | operate operation =>
      rcases perform_agree hT hact hagree with ⟨answer, p, p', hx, hx', hp⟩
      simp only [Act.run, hx, hx']
      exact .intro _ ⟨.taken hp.resources, hp.machines⟩
    | drop => exact .intro _ ⟨.empty, drop_agree hT hagree⟩

/-- The resource in a slot cannot tell two fleets apart. -/
structure FleetsAgree (T : Tenancy σ) (slot : String) (fleet fleet' : Fleet σ) : Prop where
  host : fleet'.host = fleet.host
  members : T.Likewise slot (fleet.member? slot) (fleet'.member? slot)
  alike : T.Alike slot (fleet.seat slot) (fleet'.seat slot)

theorem FleetsAgree.left (h : T.FleetsAgree slot fleet fleet') : T.FleetsAgree slot fleet fleet :=
  ⟨rfl, h.members.left, h.alike.valid⟩

theorem act_agree (hT : T.Isolated fleet.host.interpreter) {act : Act σ}
    (hact : act.Regular T slot) (h : T.FleetsAgree slot fleet fleet')
    (hnow : fleet.machine.now = fleet'.machine.now) :
    SameAnswer
      (fun next next' : Fleet σ =>
        T.SlotsAgree slot
          ⟨fleet.machine, fleet'.machine, (fleet.seat slot).hand, (fleet'.seat slot).hand⟩
          (next.member? slot, next.machine) (next'.member? slot, next'.machine))
      (fleet.act slot act) (fleet'.act slot act) := by
  have hbegin : T.SlotsAgree slot
      ⟨fleet.machine, fleet'.machine, (fleet.seat slot).hand, (fleet'.seat slot).hand⟩
      (fleet.member? slot, fleet.machine) (fleet'.member? slot, fleet'.machine) :=
    ⟨h.members, .refl h.alike hnow⟩
  have hrun := run_act_agree hT hact hbegin
  have hacts' := (fleet'.act_acts slot act).run
  rw [h.host] at hacts'
  rw [(fleet.act_acts slot act).run, hacts'] at hrun
  rcases hrun with ⟨answer, p, p', hx, hx', hp⟩
  obtain ⟨hanswer, rfl⟩ := Prod.mk.inj hx
  obtain ⟨hanswer', rfl⟩ := Prod.mk.inj hx'
  exact ⟨answer, _, _, Prod.ext hanswer rfl, Prod.ext hanswer' rfl, hp⟩

/-- A turn of a slot shows the same in two fleets that the slot cannot tell apart, and then it still
cannot.  No other slot sees it. -/
theorem take_agree (hT : T.Isolated fleet.host.interpreter) {turn : Turn σ}
    (hturn : turn.act.Regular T turn.slot) (h : T.FleetsAgree turn.slot fleet fleet') :
    fleet.observe turn = fleet'.observe turn ∧
      T.FleetsAgree turn.slot (fleet.take turn).2 (fleet'.take turn).2 ∧
      T.Unseen turn.slot (fleet.seat turn.slot) ((fleet.take turn).2.seat turn.slot) := by
  have hclocked : T.FleetsAgree turn.slot (fleet.setClock turn.now) (fleet'.setClock turn.now) :=
    ⟨h.host, h.members, h.alike⟩
  have hserves : T.Isolated (fleet.setClock turn.now).host.interpreter := hT
  have hhost := fleet.take_host turn
  have hhost' := fleet'.take_host turn
  have hsame : SameAnswer _ (fleet.take turn) (fleet'.take turn) :=
    act_agree hserves hturn hclocked rfl
  rcases hsame with ⟨answer, next, next', hx, hx', hmembers, hmachines⟩
  rw [hx] at hhost
  rw [hx'] at hhost'
  have hentries : (fleet.machine.journal.since next.machine.journal).map Entry.unnumbered
      = (fleet'.machine.journal.since next'.machine.journal).map Entry.unnumbered :=
    hmachines.journal.since_eq
  have hbindings : (next'.member? turn.slot).map (·.bindings)
      = (next.member? turn.slot).map (·.bindings) := hmembers.bindings_eq
  refine ⟨?_, ?_, ?_⟩
  · unfold Fleet.observe
    rw [hx, hx', hentries, hbindings]
  · rw [hx, hx']
    exact ⟨hhost'.trans (h.host.trans hhost.symm), hmembers, hmachines.alike⟩
  · rw [hx]
    exact hmachines.unseen

/-! ## All slots -/

/-- What holds of a fleet between two turns. -/
structure Settled (T : Tenancy σ) (fleet : Fleet σ) : Prop where
  /-- Every resource is a tenant. -/
  own : ∀ slot, T.FleetsAgree slot fleet fleet
  /-- No context is held for two slots. -/
  apart : ∀ slot other, other ≠ slot → (fleet.seat slot).hand.Apart (fleet.seat other).hand
  kept : ∀ slot r, fleet.member? slot = some r → r.Kept

namespace Settled

/-- What a slot sees is not changed by the turns of others. -/
theorem view_take (hT : T.Isolated fleet.host.interpreter) (h : T.Settled fleet) {turn : Turn σ}
    (hturn : turn.act.Regular T turn.slot) (hslot : slot ≠ turn.slot) :
    ((fleet.take turn).2.seat turn.slot).hand.Apart (fleet.seat slot).hand ∧
      T.view slot ((fleet.take turn).2.seat slot) = T.view slot (fleet.seat slot) := by
  have hunseen := (take_agree hT hturn (h.own turn.slot)).2.2
  have hseen := hunseen slot hslot (fleet.seat slot).hand (handOf_atRest _) (h.own slot).alike
    (h.apart _ _ hslot)
  refine ⟨hseen.1, Eq.trans ?_ hseen.2⟩
  rw [Fleet.seat, fleet.take_others turn hslot]
  rfl

/-- A slot cannot tell whether another slot had a turn. -/
theorem agree_elsewhere (hT : T.Isolated fleet.host.interpreter) (h : T.Settled fleet)
    {turn : Turn σ} (hturn : turn.act.Regular T turn.slot) (hslot : slot ≠ turn.slot)
    (hagree : T.FleetsAgree slot fleet fleet') : T.FleetsAgree slot (fleet.take turn).2 fleet' := by
  refine ⟨hagree.host.trans (fleet.take_host turn).symm, ?_, ?_⟩
  · rw [fleet.take_others turn hslot]
    exact hagree.members
  · exact hagree.alike.of_view_eq (h.view_take hT hturn hslot).2

theorem take (hT : T.Isolated fleet.host.interpreter) (h : T.Settled fleet) {turn : Turn σ}
    (hturn : turn.act.Regular T turn.slot) : T.Settled (fleet.take turn).2 := by
  have hhand : ∀ slot, slot ≠ turn.slot →
      ((fleet.take turn).2.seat slot).hand = (fleet.seat slot).hand :=
    fun slot hslot => congrArg handOf (fleet.take_others turn hslot)
  constructor
  · intro slot
    by_cases hslot : slot = turn.slot
    · subst hslot
      exact (take_agree hT hturn (h.own turn.slot)).2.1
    · exact (h.agree_elsewhere hT hturn hslot (h.own slot)).left
  · intro slot other hother
    by_cases hslot : slot = turn.slot
    · subst hslot
      rw [hhand other hother]
      exact (h.view_take hT hturn hother).1
    · rw [hhand slot hslot]
      by_cases hother' : other = turn.slot
      · subst hother'
        exact (h.view_take hT hturn hslot).1.symm
      · rw [hhand other hother']
        exact h.apart slot other hother
  · intro slot r hmember
    by_cases hslot : slot = turn.slot
    · subst hslot
      have hkept := turn.act.run_kept fleet.host (fleet.setClock turn.now).machine hturn.byHost
        (h.kept turn.slot)
      rw [fleet.take_run turn] at hkept
      exact hkept r hmember
    · rw [fleet.take_others turn hslot] at hmember
      exact h.kept slot r hmember

end Settled

/-- What the turns of a slot show is what they show without those of the others. -/
theorem observed_agree {turns : List (Turn σ)} {slot : String} {fleet alone : Fleet σ}
    (hT : T.Isolated fleet.host.interpreter) (hsettled : T.Settled fleet)
    (hagree : T.FleetsAgree slot fleet alone)
    (hturns : ∀ turn ∈ turns, turn.act.Regular T turn.slot) :
    fleet.observed slot turns = alone.observed slot (turns.filter (·.slot = slot)) := by
  induction turns generalizing fleet alone with
  | nil => rfl
  | cons turn rest ih =>
    have hturn := hturns turn List.mem_cons_self
    have hrest : ∀ turn ∈ rest, turn.act.Regular T turn.slot :=
      fun turn hmem => hturns turn (List.mem_cons_of_mem _ hmem)
    have hT' : T.Isolated (fleet.take turn).2.host.interpreter := fleet.take_host turn ▸ hT
    by_cases hslot : turn.slot = slot
    · -- both runs take the turn
      subst hslot
      rcases take_agree hT hturn hagree with ⟨hobserve, hnext, -⟩
      rw [List.filter_cons_of_pos (by simp), Fleet.observed, Fleet.observed, if_pos rfl, if_pos rfl,
        hobserve, ih hT' (hsettled.take hT hturn) hnext hrest]
    · -- only one of them does, and the slot does not see it
      have hnext := hsettled.agree_elsewhere hT hturn (fun h => hslot h.symm) hagree
      rw [List.filter_cons_of_neg (by simpa using hslot), Fleet.observed, if_neg hslot,
        ih hT' (hsettled.take hT hturn) hnext hrest]

theorem Settled.run {turns : List (Turn σ)} {fleet : Fleet σ}
    (hT : T.Isolated fleet.host.interpreter) (hsettled : T.Settled fleet)
    (hturns : ∀ turn ∈ turns, turn.act.Regular T turn.slot) : T.Settled (fleet.run turns) := by
  induction turns generalizing fleet with
  | nil => exact hsettled
  | cons turn rest ih =>
    have hT' : T.Isolated (fleet.take turn).2.host.interpreter := fleet.take_host turn ▸ hT
    exact ih hT' (hsettled.take hT (hturns turn List.mem_cons_self))
      fun turn hmem => hturns turn (List.mem_cons_of_mem _ hmem)

/-- A host that has no resources yet. -/
theorem Settled.of_empty (hempty : fleet.members = [])
    (hvalid : ∀ slot, T.Valid slot ⟨fleet.machine.engine, {}⟩) : T.Settled fleet := by
  have hmember : ∀ slot, fleet.member? slot = none := by
    intro slot
    rw [Fleet.member?, hempty]
    rfl
  constructor
  · intro slot
    refine ⟨rfl, ?_, ?_⟩
    · rw [hmember slot]
      exact .empty
    · rw [Fleet.seat, hmember slot]
      exact hvalid slot
  · intro slot other _ context hcontext
    rw [Fleet.seat, hmember slot] at hcontext
    cases hcontext
  · intro slot r hr
    rw [hmember slot] at hr
    cases hr

end Tenancy

namespace Fleet

/-- The resources of a host do not interfere.  Let the interpreter keep nothing that is shared by
its tenants, and let the turns of a run, with whatever readings of the clock, be any operations on
any resources, which are made and ended at any time.  What the turns of a slot show, answers,
records and bindings, is what they show in the run from which all turns of other slots have been
deleted.  A turn of another slot leaves the resource in the slot as it is, with all its bindings,
and gives back no more references than those its own resource held. -/
theorem noninterference {T : Tenancy σ} {fleet : Fleet σ}
    (hT : T.Isolated fleet.host.interpreter) (hempty : fleet.members = [])
    (hvalid : ∀ slot, T.Valid slot ⟨fleet.machine.engine, {}⟩) {turns : List (Turn σ)}
    (hturns : ∀ turn ∈ turns, turn.act.Regular T turn.slot) (slot : String) :
    fleet.observed slot turns = fleet.observed slot (turns.filter (·.slot = slot)) ∧
      ∀ before turn after, turns = before ++ turn :: after → turn.slot ≠ slot →
        let reached := fleet.run before
        let next := (reached.take turn).2
        next.member? slot = reached.member? slot ∧
          ∀ c, reached.machine.journal.balance c + heldFor c (next.member? turn.slot)
            ≤ next.machine.journal.balance c + heldFor c (reached.member? turn.slot) := by
  have hsettled : T.Settled fleet := .of_empty hempty hvalid
  refine ⟨Tenancy.observed_agree hT hsettled (hsettled.own slot) hturns, ?_⟩
  rintro before turn after rfl hslot
  have hreached := hsettled.run hT fun turn hmem => hturns turn (List.mem_append_left _ hmem)
  refine ⟨(fleet.run before).take_others turn fun h => hslot h.symm, ?_⟩
  intro c
  have hle := turn.act.run_le_balance (fleet.run before).host
    ((fleet.run before).setClock turn.now).machine (hreached.kept turn.slot) c
  rw [(fleet.run before).take_run turn] at hle
  exact hle

end Fleet

namespace Sample.Workshop

/-- A host without resources. -/
def fleet : Fleet Workshop where
  host := ⟨interpreter, Builtin.registry, {}, .new "alt"⟩
  machine := ⟨{}, ⟨0⟩, .empty⟩

/-- The second resource is stopped. -/
def stopped : Turn Workshop := ⟨"b", ⟨6⟩, .operate .stop⟩

/-- Two resources that are made, started and called in turns. -/
def turns : List (Turn Workshop) :=
  [⟨"a", ⟨0⟩, .create "a" "main" package⟩, ⟨"b", ⟨1⟩, .create "b" "main" package⟩,
    ⟨"b", ⟨2⟩, .operate .tryStart⟩, ⟨"a", ⟨3⟩, .operate .tryStart⟩,
    ⟨"b", ⟨4⟩, .operate (.event (.playerConnect ⟨.player, 1⟩))⟩,
    ⟨"a", ⟨5⟩, .operate (.event (.playerConnect ⟨.player, 1⟩))⟩]

/-- What the host does afterwards. -/
def rest : List (Turn Workshop) :=
  [⟨"a", ⟨7⟩, .operate (.event (.playerConnect ⟨.player, 1⟩))⟩, ⟨"b", ⟨8⟩, .drop⟩]

end Sample.Workshop

namespace Fleet

open Sample

/-- The workshop serves two resources, and stopping one of them leaves the other its handler. -/
theorem noninterference_workshop :
    Workshop.fleet.observed "a" (Workshop.turns ++ Workshop.stopped :: Workshop.rest)
      = Workshop.fleet.observed "a"
        ((Workshop.turns ++ Workshop.stopped :: Workshop.rest).filter (·.slot = "a")) ∧
    (((Workshop.fleet.run Workshop.turns).take Workshop.stopped).2.member? "a").map (·.bindings)
      = ((Workshop.fleet.run Workshop.turns).member? "a").map (·.bindings) ∧
    ((Workshop.fleet.run Workshop.turns).member? "a").map (·.bindings.handlers)
      = some [(.playerConnect, greeter)] := by
  have hturns : ∀ turn ∈ Workshop.turns ++ Workshop.stopped :: Workshop.rest,
      turn.act.Regular Workshop.tenancy turn.slot := by
    simp [Workshop.turns, Workshop.stopped, Workshop.rest, Act.Regular, Operation.ByHost,
      Workshop.tenancy]
  have hempty : Workshop.fleet.members = [] := rfl
  rcases noninterference Workshop.isolated hempty (Workshop.valid _) hturns "a"
    with ⟨hobserved, hothers⟩
  refine ⟨hobserved, ?_, by decide +kernel⟩
  rw [(hothers Workshop.turns Workshop.stopped Workshop.rest rfl (by decide)).1]

end Fleet

end ScriptHost
