import ScriptHost.Proofs.Fleet.References

/-!
# Turns of a host

A run of a host is a list of turns: in each it reads the clock and does something with the resource
in one slot.  What is done with a slot goes by what is in the slot (`Fleet.act_acts`); it leaves all
other slots as they are, and gives back no more references than were held for its own
(`Act.run_le_balance`).
-/

namespace ScriptHost

variable {σ : Type}

/-- What a host does with the resource in a slot. -/
inductive Act (σ : Type) where
  | create (name main : String) (package : Package σ)
  | operate (operation : Operation)
  | drop

/-- Something is done in a slot, at a reading of the clock. -/
structure Turn (σ : Type) where
  slot : String
  now : Instant
  act : Act σ

/-- The host does it, and does not stand in for a script. -/
def Act.ByHost : Act σ → Prop
  | operate operation => operation.ByHost
  | _ => True

namespace Fleet

/-- The host does something with the resource in a slot. -/
def act (fleet : Fleet σ) (slot : String) : Act σ → Option Answer × Fleet σ
  | .create name main package => (none, fleet.create slot name main package)
  | .operate operation => fleet.perform slot operation
  | .drop => (none, fleet.drop slot)

/-- The clock is set. -/
def setClock (fleet : Fleet σ) (now : Instant) : Fleet σ :=
  fleet.onMachine fun m => { m with now }

/-- The clock is read, and then the host acts. -/
def take (fleet : Fleet σ) (turn : Turn σ) : Option Answer × Fleet σ :=
  (fleet.setClock turn.now).act turn.slot turn.act

/-- A fleet after turns. -/
def run (fleet : Fleet σ) (turns : List (Turn σ)) : Fleet σ :=
  turns.foldl (fun fleet turn => (fleet.take turn).2) fleet

end Fleet

/-! ## One slot -/

/-- What is done with a slot, told from what is in it. -/
def Act.run (host : Host σ) (act : Act σ) (r? : Option (Resource σ)) (m : Machine σ) :
    Option Answer × Option (Resource σ) × Machine σ :=
  match act, r? with
  | .create name main package, some old =>
    let (r, m) := host.createResource name main package m
    (none, some r, old.drop host.interpreter m)
  | .create name main package, none =>
    let (r, m) := host.createResource name main package m
    (none, some r, m)
  | .operate operation, some r =>
    let (answer, r, m) := r.perform host.interpreter operation m
    (some answer, some r, m)
  | .operate _, none => (none, none, m)
  | .drop, some r => (none, none, r.drop host.interpreter m)
  | .drop, none => (none, none, m)

/-- What is done with a slot goes by what is in it, and leaves all other slots as they are. -/
structure Fleet.Acts (fleet : Fleet σ) (slot : String) (act : Act σ) (answer : Option Answer)
    (next : Fleet σ) : Prop where
  host : next.host = fleet.host
  run : act.run fleet.host (fleet.member? slot) fleet.machine
    = (answer, next.member? slot, next.machine)
  others : ∀ other, other ≠ slot → next.member? other = fleet.member? other

theorem Fleet.act_acts (fleet : Fleet σ) (slot : String) (act : Act σ) :
    fleet.Acts slot act (fleet.act slot act).1 (fleet.act slot act).2 := by
  have hown : ∀ r : Resource σ, Keyed.find? slot (Keyed.insert slot r fleet.members) = some r := by
    intro r
    rw [Keyed.find?_insert, if_pos rfl]
  have hothers : ∀ (r : Resource σ) (other : String), other ≠ slot →
      Keyed.find? other (Keyed.insert slot r fleet.members) = fleet.member? other := by
    intro r other hother
    rw [Keyed.find?_insert, if_neg hother.symm, member?]
  cases act with
  | create name main package =>
    refine ⟨rfl, ?_, hothers _⟩
    simp only [Fleet.act, create, member?, hown]
    cases Keyed.find? slot fleet.members <;> rfl
  | operate operation =>
    simp only [Fleet.act, perform]
    cases hmember : fleet.member? slot with
    | none => exact ⟨rfl, by rw [hmember]; rfl, fun _ _ => rfl⟩
    | some r =>
      refine ⟨rfl, ?_, hothers _⟩
      rw [hmember]
      simp only [member?, hown]
      rfl
  | drop =>
    simp only [Fleet.act, drop]
    cases hmember : fleet.member? slot with
    | none => exact ⟨rfl, by rw [hmember]; rfl, fun _ _ => rfl⟩
    | some r =>
      have hfilter := fun other => Keyed.find?_filter_keys (· != slot) other fleet.members
      refine ⟨rfl, ?_, ?_⟩
      · rw [hmember]
        simp only [member?, hfilter]
        simp [Act.run]
      · intro other hother
        simp only [member?, hfilter]
        simp [hother]

namespace Fleet

variable (fleet : Fleet σ) (turn : Turn σ)

theorem take_host : (fleet.take turn).2.host = fleet.host :=
  ((fleet.setClock turn.now).act_acts turn.slot turn.act).host

theorem take_run :
    turn.act.run fleet.host (fleet.member? turn.slot) (fleet.setClock turn.now).machine
      = ((fleet.take turn).1, (fleet.take turn).2.member? turn.slot,
        (fleet.take turn).2.machine) :=
  ((fleet.setClock turn.now).act_acts turn.slot turn.act).run

theorem take_others {slot : String} (hslot : slot ≠ turn.slot) :
    (fleet.take turn).2.member? slot = fleet.member? slot :=
  ((fleet.setClock turn.now).act_acts turn.slot turn.act).others slot hslot

end Fleet

/-! ## References -/

namespace Resource

variable (interpreter : Interpreter σ) {r : Resource σ}

/-- What the bindings no longer hold may have been given back, and nothing else. -/
theorem le_balance_of_accounts {m : Machine σ} {t : Scene σ}
    (h : (r.scene m).Accounts anyCall t) (hwell : r.bindings.timers.WellFormed) (c : Counted) :
    m.journal.balance c + t.bindings.holding c
      ≤ t.machine.journal.balance c + r.bindings.holding c := by
  cases c with
  | function f =>
    have hsurplus := h.surplus_le hwell f
    unfold Scene.surplus scene at hsurplus
    rw [← Bindings.count_callbacks, ← Bindings.count_callbacks]
    simp only [Journal.balance] at hsurplus ⊢
    omega
  | arrayType type =>
    have hsurplus := h.typeSurplus_eq type
    unfold Scene.typeSurplus scene at hsurplus
    rw [← Bindings.count_held, ← Bindings.count_held]
    simp only [Journal.balance] at hsurplus ⊢
    omega

theorem perform_le_balance (hkept : r.Kept) (operation : Operation) (m : Machine σ)
    (c : Counted) :
    m.journal.balance c + (r.perform interpreter operation m).2.1.bindings.holding c
      ≤ (r.perform interpreter operation m).2.2.journal.balance c + r.bindings.holding c := by
  rcases hkept.lived with ⟨milestones, hlived⟩
  have hstep := perform_step interpreter.asksOnly_anyCall r m operation.asks_anyCall hlived
  exact le_balance_of_accounts hstep.accounts hkept.wellFormed c

theorem drop_le_balance (hkept : r.Kept) (m : Machine σ) (c : Counted) :
    m.journal.balance c ≤ (r.drop interpreter m).journal.balance c + r.bindings.holding c := by
  rcases hkept.lived with ⟨milestones, hlived⟩
  rcases drop_step interpreter.asksOnly_anyCall r m hlived with ⟨t, heq, haccounts, -⟩
  have hle := le_balance_of_accounts haccounts hkept.wellFormed c
  rw [heq]
  omega

end Resource

/-- The references that are held for what is in a slot. -/
def heldFor (c : Counted) : Option (Resource σ) → Nat
  | some r => r.bindings.holding c
  | none => 0

namespace Host

variable (host : Host σ) (name main : String) (package : Package σ) (m : Machine σ)

theorem createResource_kept : (host.createResource name main package m).1.Kept :=
  .new name main package _ _

/-- Nothing is held for a new resource, and making it moves no reference. -/
theorem createResource_balance (c : Counted) :
    heldFor c (some (host.createResource name main package m).1) = 0 ∧
      (host.createResource name main package m).2.journal.balance c = m.journal.balance c := by
  refine ⟨((host.createResource_kept name main package m).idle nofun).holding_eq c, ?_⟩
  cases c with
  | function f => exact (Journal.functionBalance_push _ _ f).trans (Int.add_zero _)
  | arrayType type => exact (Journal.typeBalance_push _ _ type).trans (Int.add_zero _)

end Host

namespace Act

variable (act : Act σ) (host : Host σ) {r? : Option (Resource σ)} (m : Machine σ)

theorem run_kept (hact : act.ByHost) (hkept : ∀ r, r? = some r → r.Kept) :
    ∀ r, (act.run host r? m).2.1 = some r → r.Kept := by
  intro r h
  rcases act with ⟨name, main, package⟩ | operation | _
  · cases r? <;>
      · cases h
        exact host.createResource_kept name main package m
  · cases r? with
    | none => cases h
    | some old =>
      cases h
      exact (hkept old rfl).perform host.interpreter hact m
  · cases r? <;> cases h

/-- No more references are given back than were held for the slot. -/
theorem run_le_balance (hkept : ∀ r, r? = some r → r.Kept) (c : Counted) :
    m.journal.balance c + heldFor c (act.run host r? m).2.1
      ≤ (act.run host r? m).2.2.journal.balance c + heldFor c r? := by
  rcases act with ⟨name, main, package⟩ | operation | _
  · have hnew := host.createResource_balance name main package m c
    cases r? with
    | none =>
      simp only [run, hnew.1, hnew.2]
      exact Int.le_refl _
    | some old =>
      have hle := Resource.drop_le_balance host.interpreter (hkept old rfl)
        (host.createResource name main package m).2 c
      simp only [run, hnew.1]
      simp only [heldFor]
      omega
  · cases r? with
    | none => exact Int.le_refl _
    | some old =>
      have hle := Resource.perform_le_balance host.interpreter (hkept old rfl) operation m c
      rcases hx : old.perform host.interpreter operation m with ⟨answer, r, m'⟩
      rw [hx] at hle
      simp only [run, hx]
      exact hle
  · cases r? with
    | none => exact Int.le_refl _
    | some old =>
      have hle := Resource.drop_le_balance host.interpreter (hkept old rfl) m c
      simp only [run, heldFor]
      omega

end Act

end ScriptHost
