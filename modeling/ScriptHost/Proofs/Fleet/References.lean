import ScriptHost.Proofs.Resource.Lifecycle

/-!
# References are conserved

All resources of a host share one machine, and the references that are held on a function are
counted over its whole journal.  As long as scripts pass function handles only where a callback is
expected, the count is what the entries of all resources account for, whatever operations are
performed in whatever order (`references_conserved`).  A resource that is not running accounts for
nothing, so after a stop, a start that failed or the end of a resource no reference of it is left.
-/

namespace ScriptHost

variable {σ : Type} {interpreter : Interpreter σ}

/-! ## Entries -/

/-- What the interpreter counts references to. -/
inductive Counted where
  | function (handle : FunctionHandle)
  | arrayType (handle : ArrayTypeHandle)
deriving DecidableEq, Repr

/-- The references held on either. -/
def Journal.balance (journal : Journal) : Counted → Int
  | .function f => journal.functionBalance f
  | .arrayType t => journal.typeBalance t

/-- The number of handlers, custom handlers and timers that hold a function, timers queued for
removal included, or the number of kinds of arrays that are resolved to a type. -/
def Bindings.holding (bindings : Bindings) : Counted → Nat
  | .function f =>
    bindings.handlers.countP (fun handler => handler.2 = f)
      + bindings.custom.entries.countP (fun handler => handler.callback = f)
      + bindings.timers.timers.countP (fun timer => timer.2.callback = f)
  | .arrayType t => ArrayKind.all.countP fun kind => bindings.arrays.get? kind = some t

theorem Bindings.count_callbacks (bindings : Bindings) (f : FunctionHandle) :
    bindings.callbacks.count f = bindings.holding (.function f) := by
  have hcount : ∀ {α : Type} (view : α → FunctionHandle) (l : List α),
      (l.map view).count f = l.countP fun a => view a = f := by
    intro α view l
    rw [List.count_eq_countP, List.countP_map]
    apply List.countP_congr
    intro a _
    simp
  rw [callbacks, List.count_append, List.count_append, CustomHandlers.callbacks,
    TimerTable.callbacks, hcount, hcount, hcount, holding]

theorem Bindings.count_held (bindings : Bindings) (t : ArrayTypeHandle) :
    bindings.arrays.held.count t = bindings.holding (.arrayType t) := by
  rw [ArrayTypes.held, holding, List.count_eq_countP, List.countP_filterMap]
  apply List.countP_congr
  intro kind _
  cases bindings.arrays.get? kind <;> simp

namespace Resource

/-! ## One resource -/

/-- What holds of every resource between operations. -/
structure Kept (r : Resource σ) : Prop where
  lived : ∃ milestones, r.Lived milestones
  wellFormed : r.bindings.timers.WellFormed
  /-- Only a running resource holds references. -/
  idle : r.phase ≠ .running → r.Cleared

theorem Kept.new (name main : String) (package : Package σ) (registry : EventRegistry)
    (withStack : Bool) : (new name main package registry withStack).Kept :=
  ⟨⟨[], .fresh⟩, TimerTable.wellFormed_empty, fun _ => ⟨rfl, rfl⟩⟩

/-- After a start the resource is running, or it is as before, or it holds nothing. -/
theorem tryStart_cleared (hasks : interpreter.AsksOnly anyCall) (r : Resource σ) (m : Machine σ)
    (hkept : r.Kept) (h : (r.tryStart interpreter m).2.1.phase ≠ .running) :
    (r.tryStart interpreter m).2.1.Cleared := by
  rcases hkept.lived with ⟨milestones, hlived⟩
  by_cases hphase : r.phase = .uninitialized
  · rcases r.tryStart_phase interpreter hphase m with ⟨-, hrunning⟩ | ⟨e, -, hstopped⟩
    · exact absurd hrunning h
    · have hnot : r.phase ≠ .stopped := by
        rw [hphase]
        exact fun h => by cases h
      exact (tryStart_step hasks r m hlived).cleared hstopped hnot
  · rw [r.tryStart_of_not_uninitialized interpreter hphase m] at h ⊢
    exact hkept.idle h

end Resource

/-- The operation is one of the host, and does not stand in for a script. -/
def Operation.ByHost : Operation → Prop
  | hostCall .. => False
  | _ => True

namespace Resource

theorem Kept.perform (interpreter : Interpreter σ) {r : Resource σ} (hkept : r.Kept)
    {operation : Operation} (hop : operation.ByHost) (m : Machine σ) :
    (r.perform interpreter operation m).2.1.Kept := by
  have hasks : interpreter.AsksOnly anyCall := interpreter.asksOnly_anyCall
  rcases hkept.lived with ⟨milestones, hlived⟩
  have hstep := perform_step hasks r m operation.asks_anyCall hlived
  rcases hstep.lived with ⟨shown, -, hlived'⟩
  refine ⟨⟨_, hlived'⟩, hstep.accounts.wellFormed hkept.wellFormed, ?_⟩
  intro hphase
  have hdispatch : operation.IsDispatch → (r.perform interpreter operation m).2.1.Cleared := by
    intro h
    have hcontext : r.isRunning = true → r.context.isSome := hlived.context_isSome
    rcases r.perform_dispatches interpreter hcontext h m with ⟨t, calls, heq, -, -⟩
    -- the phase is that before the dispatch, which then has done nothing
    have hbefore : r.phase ≠ .running := by
      rw [heq] at hphase
      exact hphase
    rw [r.perform_of_not_running interpreter hbefore h m]
    exact hkept.idle hbefore
  cases operation with
  | start =>
    have heq := r.start_eq_tryStart interpreter m
    show (r.start interpreter m).2.1.Cleared
    have hnot : (r.start interpreter m).2.1.phase ≠ .running := hphase
    rw [heq] at hnot ⊢
    exact tryStart_cleared hasks r m hkept hnot
  | tryStart => exact tryStart_cleared hasks r m hkept hphase
  | stop => exact (stop_step hasks r m hlived).2.2
  | event | tick | dispatch => exact hdispatch trivial
  | hostCall => exact hop.elim

/-- A resource goes over into another with as many references more as it has more entries. -/
def Settles (r : Resource σ) (m : Machine σ) (r' : Resource σ) (m' : Machine σ) : Prop :=
  ∀ c, m'.journal.balance c + r.bindings.holding c = m.journal.balance c + r'.bindings.holding c

theorem Settles.of_accounts {r r' : Resource σ} {m m' : Machine σ}
    (h : (r.scene m).Accounts HostFunction.WellPlaced (r'.scene m'))
    (hwf : r.bindings.timers.WellFormed) : Settles r m r' m' := by
  intro c
  cases c with
  | function f =>
    have hsurplus := h.surplus_eq hwf (fun _ _ h => h) f
    unfold Scene.surplus scene at hsurplus
    rw [← Bindings.count_callbacks, ← Bindings.count_callbacks]
    simp only [Journal.balance] at hsurplus ⊢
    omega
  | arrayType t =>
    have hsurplus := h.typeSurplus_eq t
    unfold Scene.typeSurplus scene at hsurplus
    rw [← Bindings.count_held, ← Bindings.count_held]
    simp only [Journal.balance] at hsurplus ⊢
    omega

theorem Cleared.holding_eq {r : Resource σ} (h : r.Cleared) (c : Counted) :
    r.bindings.holding c = 0 := by
  cases c with
  | function f => rw [← Bindings.count_callbacks, h.1, List.count_nil]
  | arrayType t => rw [← Bindings.count_held, h.2, List.count_nil]

/-- It does not matter which resource without references is left. -/
theorem Settles.of_cleared {r r' r'' : Resource σ} {m m' : Machine σ} (h : Settles r m r' m')
    (hcleared : r'.Cleared) (hcleared' : r''.Cleared) : Settles r m r'' m' := by
  intro c
  rw [hcleared'.holding_eq, ← hcleared.holding_eq c]
  exact h c

theorem perform_settles (hasks : interpreter.AsksOnly HostFunction.WellPlaced) {r : Resource σ}
    (hkept : r.Kept) {operation : Operation} (hop : operation.ByHost) (m : Machine σ) :
    Settles r m (r.perform interpreter operation m).2.1
      (r.perform interpreter operation m).2.2 := by
  rcases hkept.lived with ⟨milestones, hlived⟩
  have hasked : operation.Asks HostFunction.WellPlaced := by
    cases operation with
    | hostCall => exact hop.elim
    | start | tryStart | stop | event | tick | dispatch => exact trivial
  exact .of_accounts (perform_step hasks r m hasked hlived).accounts hkept.wellFormed

/-- With a resource go all the references that it holds. -/
theorem drop_settles (hasks : interpreter.AsksOnly HostFunction.WellPlaced) {r : Resource σ}
    (hkept : r.Kept) (m : Machine σ) :
    ∃ r' : Resource σ, r'.Cleared ∧ Settles r m r' (r.drop interpreter m) := by
  rcases hkept.lived with ⟨milestones, hlived⟩
  rcases drop_step hasks r m hlived with ⟨t, heq, haccounts, hcallbacks, harrays, -⟩
  rw [heq]
  exact ⟨r.adopt t, ⟨hcallbacks, harrays⟩, .of_accounts haccounts hkept.wellFormed⟩

end Resource

namespace Fleet

/-! ## All resources of a host -/

/-- The references taken since some machine are those that the entries of the members account
for. -/
def Balanced (base m : Machine σ) (members : List (String × Resource σ)) : Prop :=
  ∀ c, m.journal.balance c
    = base.journal.balance c + Keyed.sumOf (fun r => r.bindings.holding c) members

namespace Balanced

variable {base m m' : Machine σ} {members rest : List (String × Resource σ)} {slot : String}
  {r r' : Resource σ}

theorem perm (h : Balanced base m members) (hperm : members.Perm rest) : Balanced base m rest := by
  intro c
  rw [← Keyed.sumOf_perm _ hperm]
  exact h c

theorem settle (h : Balanced base m ((slot, r) :: rest)) (hsettles : r.Settles m r' m') :
    Balanced base m' ((slot, r') :: rest) := by
  intro c
  have hbefore := h c
  have hmoved := hsettles c
  rw [Keyed.sumOf_cons] at hbefore ⊢
  simp only at hbefore ⊢
  omega

/-- A resource that holds nothing does not count. -/
theorem cons_iff (hcleared : r.Cleared) :
    Balanced base m ((slot, r) :: rest) ↔ Balanced base m rest := by
  have hsum : ∀ c, Keyed.sumOf (fun r => r.bindings.holding c) ((slot, r) :: rest)
      = Keyed.sumOf (fun r => r.bindings.holding c) rest := by
    intro c
    rw [Keyed.sumOf_cons, hcleared.holding_eq, Nat.zero_add]
  unfold Balanced
  simp only [hsum]

/-! A change of one member goes through the permutations that put it in front. -/

theorem insert (h : Balanced base m members) (hasc : Keyed.Ascending members)
    (hfind : Keyed.find? slot members = none) (hcleared : r.Cleared) :
    Balanced base m (Keyed.insert slot r members) := by
  rw [← Keyed.filter_ne_eq_self hfind] at h
  exact ((cons_iff hcleared).mpr h).perm (Keyed.insert_perm slot r hasc).symm

theorem replace (h : Balanced base m members) (hasc : Keyed.Ascending members)
    (hfind : Keyed.find? slot members = some r) (hsettles : r.Settles m r' m') :
    Balanced base m' (Keyed.insert slot r' members) :=
  ((h.perm (Keyed.perm_cons_filter_ne hasc.nodup hfind)).settle hsettles).perm
    (Keyed.insert_perm slot r' hasc).symm

theorem remove (h : Balanced base m members) (hasc : Keyed.Ascending members)
    (hfind : Keyed.find? slot members = some r) (hsettles : r.Settles m r' m')
    (hcleared : r'.Cleared) : Balanced base m' (members.filter (·.1 ≠ slot)) :=
  (cons_iff hcleared).mp
    ((h.perm (Keyed.perm_cons_filter_ne hasc.nodup hfind)).settle hsettles)

/-- Nothing is left when all resources have come to their end. -/
theorem dropAll (hasks : interpreter.AsksOnly HostFunction.WellPlaced)
    (hkept : ∀ e ∈ members, e.2.Kept) (h : Balanced base m members) :
    Balanced base (members.foldl (fun m (_, r) => r.drop interpreter m) m) [] := by
  induction members generalizing m with
  | nil => exact h
  | cons entry rest ih =>
    rcases entry with ⟨slot, r⟩
    have hr : r.Kept := hkept (slot, r) List.mem_cons_self
    rcases Resource.drop_settles hasks hr m with ⟨r', hcleared, hsettles⟩
    have hnext := (cons_iff hcleared).mp (h.settle hsettles)
    exact ih (fun e he => hkept e (List.mem_cons_of_mem _ he)) hnext

end Balanced

/-- The runs of a host with its resources: they are made, operated on and ended in any order, and
the interpreter and the clock can go on in between. -/
inductive Reachable (host : Host σ) (base : Machine σ) : Fleet σ → Prop
  | opened : Reachable host base { host, machine := base }
  | created {fleet : Fleet σ} (slot name main : String) (package : Package σ)
      (h : Reachable host base fleet) : Reachable host base (fleet.create slot name main package)
  | performed {fleet : Fleet σ} (slot : String) {operation : Operation}
      (hop : operation.ByHost) (h : Reachable host base fleet) :
      Reachable host base (fleet.perform slot operation).2
  | dropped {fleet : Fleet σ} (slot : String) (h : Reachable host base fleet) :
      Reachable host base (fleet.drop slot)
  | droppedAll {fleet : Fleet σ} (h : Reachable host base fleet) :
      Reachable host base fleet.dropAll
  | elsewhere {fleet : Fleet σ} (engine : σ) (now : Instant) (h : Reachable host base fleet) :
      Reachable host base (fleet.onMachine fun m => { m with engine, now })

/-- The invariant of a fleet. -/
structure Sound (host : Host σ) (base : Machine σ) (fleet : Fleet σ) : Prop where
  host_eq : fleet.host = host
  ascending : Keyed.Ascending fleet.members
  kept : ∀ e ∈ fleet.members, e.2.Kept
  balanced : Balanced base fleet.machine fleet.members

namespace Sound

variable {host : Host σ} {base : Machine σ} {fleet : Fleet σ}

theorem member_kept (h : Sound host base fleet) {slot : String} {r : Resource σ}
    (hmember : fleet.member? slot = some r) : r.Kept :=
  h.kept (slot, r) (Keyed.mem_of_find? hmember)

theorem opened (host : Host σ) (base : Machine σ) : Sound host base { host, machine := base } :=
  ⟨rfl, List.Pairwise.nil, fun _ he => absurd he List.not_mem_nil, fun _ => (Int.add_zero _).symm⟩

theorem created (hasks : host.interpreter.AsksOnly HostFunction.WellPlaced)
    (h : Sound host base fleet) (slot name main : String) (package : Package σ) :
    Sound host base (fleet.create slot name main package) := by
  have hnew := Resource.Kept.new name main package fleet.host.registry fleet.host.config.debug
  refine ⟨h.host_eq, Keyed.ascending_insert slot _ h.ascending, ?_, ?_⟩
  · intro e he
    rcases Keyed.mem_insert he with rfl | he
    · exact hnew
    · exact h.kept e he
  · have hlogged : Balanced base (fleet.machine.log (.creatingResource name)) fleet.members := by
      intro c
      rw [← h.balanced c]
      cases c with
      | function f => exact (Journal.functionBalance_push _ _ f).trans (Int.add_zero _)
      | arrayType t => exact (Journal.typeBalance_push _ _ t).trans (Int.add_zero _)
    have hcleared := hnew.idle fun h => by cases h
    unfold create
    cases hmember : fleet.member? slot with
    | none => exact hlogged.insert h.ascending hmember hcleared
    | some old =>
      have hasked : fleet.host.interpreter.AsksOnly HostFunction.WellPlaced := h.host_eq ▸ hasks
      have hold := h.member_kept hmember
      -- the resource that was there has come to its end before
      rcases Resource.drop_settles hasked hold (fleet.machine.log (.creatingResource name))
        with ⟨r', hcleared', hsettles⟩
      exact hlogged.replace h.ascending hmember (hsettles.of_cleared hcleared' hcleared)

theorem performed (hasks : host.interpreter.AsksOnly HostFunction.WellPlaced)
    (h : Sound host base fleet) (slot : String) {operation : Operation}
    (hop : operation.ByHost) : Sound host base (fleet.perform slot operation).2 := by
  unfold perform
  cases hmember : fleet.member? slot with
  | none => exact h
  | some r =>
    have hkept := h.member_kept hmember
    have hasked : fleet.host.interpreter.AsksOnly HostFunction.WellPlaced := h.host_eq ▸ hasks
    refine ⟨h.host_eq, Keyed.ascending_insert slot _ h.ascending, ?_, ?_⟩
    · intro e he
      rcases Keyed.mem_insert he with rfl | he
      · exact hkept.perform fleet.host.interpreter hop fleet.machine
      · exact h.kept e he
    · exact h.balanced.replace h.ascending hmember
        (Resource.perform_settles hasked hkept hop fleet.machine)

theorem dropped (hasks : host.interpreter.AsksOnly HostFunction.WellPlaced)
    (h : Sound host base fleet) (slot : String) :
    Sound host base (fleet.drop slot) ∧
      (fleet.drop slot).members = fleet.members.filter (·.1 ≠ slot) := by
  unfold drop
  cases hmember : fleet.member? slot with
  | none => exact ⟨h, (Keyed.filter_ne_eq_self hmember).symm⟩
  | some r =>
    have hasked : fleet.host.interpreter.AsksOnly HostFunction.WellPlaced := h.host_eq ▸ hasks
    rcases Resource.drop_settles hasked (h.member_kept hmember) fleet.machine
      with ⟨r', hcleared, hsettles⟩
    have hfilter : fleet.members.filter (fun (key, _) => key != slot)
        = fleet.members.filter (·.1 ≠ slot) := by
      apply List.filter_congr
      intro e _
      by_cases heq : e.1 = slot <;> simp [heq]
    simp only [hfilter]
    exact ⟨⟨h.host_eq, h.ascending.filter _, fun e he => h.kept e (List.mem_filter.mp he).1,
      h.balanced.remove h.ascending hmember hsettles hcleared⟩, trivial⟩

theorem droppedAll (hasks : host.interpreter.AsksOnly HostFunction.WellPlaced)
    (h : Sound host base fleet) : Sound host base fleet.dropAll := by
  have hasked : fleet.host.interpreter.AsksOnly HostFunction.WellPlaced := h.host_eq ▸ hasks
  exact ⟨h.host_eq, List.Pairwise.nil, fun _ he => absurd he List.not_mem_nil,
    .dropAll hasked h.kept h.balanced⟩

end Sound

variable {host : Host σ} {base : Machine σ} {fleet : Fleet σ}

theorem Reachable.sound (hasks : host.interpreter.AsksOnly HostFunction.WellPlaced)
    (h : Reachable host base fleet) : Sound host base fleet := by
  induction h with
  | opened => exact .opened host base
  | created slot name main package _ ih => exact ih.created hasks slot name main package
  | performed slot hop _ ih => exact ih.performed hasks slot hop
  | dropped slot _ ih => exact (ih.dropped hasks slot).1
  | droppedAll _ ih => exact ih.droppedAll hasks
  | elsewhere _ _ _ ih =>
    exact ⟨ih.host_eq, ih.ascending, ih.kept, ih.balanced⟩

/-- Between any two operations on the resources of a host, the references held on a function are
those of the handlers, custom handlers and timers that hold it, and the references held on an array
type those of the slots that hold it.  A resource that is not running has none of either; a stop, a
start that fails and the end of a resource leave it in such a phase, or without a place. -/
theorem references_conserved (hasks : host.interpreter.AsksOnly HostFunction.WellPlaced)
    (h : Reachable host base fleet) :
    Balanced base fleet.machine fleet.members ∧
    (∀ slot r, fleet.member? slot = some r →
      (r.phase ≠ .running → ∀ c, r.bindings.holding c = 0) ∧
      (r.perform host.interpreter .stop fleet.machine).2.1.phase = .stopped ∧
      (r.phase = .uninitialized → ∀ e r' m',
        r.tryStart host.interpreter fleet.machine = (.error e, r', m') → r'.phase = .stopped)) ∧
    (∀ slot, Balanced base (fleet.drop slot).machine (fleet.members.filter (·.1 ≠ slot))) ∧
    Balanced base fleet.dropAll.machine [] := by
  have hsound := h.sound hasks
  refine ⟨hsound.balanced, ?_, ?_, (hsound.droppedAll hasks).balanced⟩
  · intro slot r hmember
    have hkept := hsound.member_kept hmember
    refine ⟨?_, ?_, ?_⟩
    · intro hphase
      exact (hkept.idle hphase).holding_eq
    · rcases hkept.lived with ⟨milestones, hlived⟩
      exact (Resource.stop_step hasks r fleet.machine hlived).2.1
    · intro hphase e r' m' hstart
      rcases r.tryStart_phase host.interpreter hphase fleet.machine with ⟨hok, -⟩ | ⟨_, -, hstopped⟩
      · rw [hstart] at hok
        cases hok
      · rw [hstart] at hstopped
        exact hstopped
  · intro slot
    have hdropped := hsound.dropped hasks slot
    rw [← hdropped.2]
    exact hdropped.1.balanced

end Fleet

namespace Sample

/-- The greeter is passed as a callback only. -/
theorem asksOnly_wellPlaced : Sample.interpreter.AsksOnly HostFunction.WellPlaced := by
  intro engine context
  refine And.intro ?_ fun _ _ => trivial
  intro index handle h
  rcases index with _ | index
  · rfl
  · cases h

def host : Host Unit := ⟨Sample.interpreter, Builtin.registry, {}, .new "alt"⟩

/-- The sample resource, alone and started. -/
def fleet : Fleet Unit :=
  ((Fleet.create { host, machine } "a" "sample" "main" package).perform "a" .tryStart).2

end Sample

namespace Fleet

/-- The start of the sample takes a reference for its subscription. -/
theorem greeter_conserved :
    Sample.fleet.machine.journal.balance (.function Sample.greeter) = 1 := by
  have hreach : Reachable Sample.host Sample.machine Sample.fleet :=
    .performed "a" trivial (.created "a" "sample" "main" Sample.package .opened)
  have hbalanced := (references_conserved Sample.asksOnly_wellPlaced hreach).1
  rw [hbalanced]
  decide +kernel

end Fleet

end ScriptHost
