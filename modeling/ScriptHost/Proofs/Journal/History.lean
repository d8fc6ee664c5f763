import ScriptHost.Journal

/-!
# Reading the journal

A view picks what the journal tells about one matter: `calls` the script functions that the host
called, `subscriptions` the handlers of host events that scripts registered, `creations` the timers
that they created.  `Grows` says of which kind the entries are that an activity adds; what a view
does not show among them it does not show of the activity.
-/

namespace ScriptHost

/-- What marks the life of a resource. -/
inductive Milestone where
  | built (module : String)
  | discarded (module : String)
  | contextCreated
  | contextReleased
  /-- The entry point is called. -/
  | entered
  /-- The start has succeeded. -/
  | started
  /-- The stop function is called. -/
  | stopCalled
deriving DecidableEq, Repr

/-- Whether the notice tells that a start has succeeded. -/
def Notice.isStarted : Notice → Bool
  | startedResource _ => true
  | _ => false

namespace Entry

/-- A call of a script function: why, of which one, and with which arguments. -/
def call? : Entry → Option (CallCause × FunctionHandle × List Argument)
  | called cause function args => some (cause, function, args)
  | _ => none

/-- A subscription to a host event that was granted. -/
def subscription? : Entry → Option (EventType × FunctionHandle)
  | served (.onEvent type) _ args (.ok _) => (functionAt args 0).toOption.map (type, ·)
  | _ => none

/-- The answer to a script that created a timer. -/
def creation? : Entry → Option HostReturn
  | served (.setTimer ..) _ _ (.ok answer) => some answer
  | _ => none

/-- What an entry tells about the life of a resource. -/
def milestone? : Entry → Option Milestone
  | moduleBuilt name => some (.built name)
  | moduleDiscarded name => some (.discarded name)
  | contextCreated => some .contextCreated
  | contextReleased => some .contextReleased
  | called .entrypoint .. => some .entered
  | called .stop .. => some .stopCalled
  | logged (.startedResource _) => some .started
  | _ => none

/-- The function that a reference is taken on. -/
def retained? : Entry → Option FunctionHandle
  | retained function => some function
  | _ => none

/-- The function that a reference is given back on. -/
def released? : Entry → Option FunctionHandle
  | released function => some function
  | _ => none

theorem filterMap_released?_map (functions : List FunctionHandle) :
    (functions.map released).filterMap released? = functions := by
  rw [List.filterMap_map]
  exact List.filterMap_some

theorem milestone?_logged {notice : Notice} (h : notice.isStarted = false) :
    (logged notice).milestone? = none := by
  cases notice <;> first | rfl | cases h

/-- The entry is not about references, and answers no script. -/
def Quiet : Entry → Prop
  | retained _ | released _ | typeRetained _ | typeReleased _ | served .. => False
  | _ => True

/-- The entry, besides, does not mark the life of a resource. -/
def Plain (entry : Entry) : Prop :=
  entry.Quiet ∧ entry.milestone? = none

/-- The entry is quiet and does not tell of a call of a script function. -/
def Silent (entry : Entry) : Prop :=
  entry.Quiet ∧ entry.call? = none

/-- The entry tells of nothing that counts. -/
def Idle (entry : Entry) : Prop :=
  entry.Plain ∧ entry.call? = none

theorem Idle.silent {entry : Entry} (h : entry.Idle) : entry.Silent :=
  ⟨h.1.1, h.2⟩

variable {entry : Entry}

theorem Quiet.functionWeight_eq (h : entry.Quiet) (f : FunctionHandle) :
    Journal.functionWeight f entry = 0 := by
  cases entry <;> first | rfl | exact h.elim

theorem Quiet.typeWeight_eq (h : entry.Quiet) (t : ArrayTypeHandle) :
    Journal.typeWeight t entry = 0 := by
  cases entry <;> first | rfl | exact h.elim

theorem Quiet.subscription?_eq (h : entry.Quiet) : entry.subscription? = none := by
  cases entry <;> first | rfl | exact h.elim

theorem Quiet.creation?_eq (h : entry.Quiet) : entry.creation? = none := by
  cases entry <;> first | rfl | exact h.elim

theorem Quiet.retained?_eq (h : entry.Quiet) : entry.retained? = none := by
  cases entry <;> first | rfl | exact h.elim

theorem Quiet.released?_eq (h : entry.Quiet) : entry.released? = none := by
  cases entry <;> first | rfl | exact h.elim

end Entry

namespace Journal

/-- What a view shows of the journal, oldest first. -/
def viewed {α : Type} (view : Entry → Option α) (journal : Journal) : List α :=
  journal.toList.filterMap view

/-- The calls of script functions. -/
def calls (journal : Journal) : List (CallCause × FunctionHandle × List Argument) :=
  journal.viewed Entry.call?

/-- The subscriptions to host events. -/
def subscriptions (journal : Journal) : List (EventType × FunctionHandle) :=
  journal.viewed Entry.subscription?

/-- The functions subscribed to a host event, in the order of their subscription. -/
def subscribersOf (journal : Journal) (type : EventType) : List FunctionHandle :=
  (journal.subscriptions.filter fun (t, _) => t = type).map (·.2)

/-- The number of timers that scripts created. -/
def creations (journal : Journal) : Nat :=
  (journal.viewed Entry.creation?).length

section Views

variable {α : Type} (view : Entry → Option α)

@[simp] theorem viewed_empty : empty.viewed view = [] := rfl

@[simp] theorem viewed_push (journal : Journal) (entry : Entry) :
    (journal.push entry).viewed view = journal.viewed view ++ (view entry).toList := by
  cases h : view entry <;> simp [viewed, h]

@[simp] theorem viewed_append (journal : Journal) (entries : List Entry) :
    (journal.append entries).viewed view = journal.viewed view ++ entries.filterMap view := by
  simp [viewed]

/-- Entries that a view does not show leave what it shows. -/
theorem viewed_append_map {β : Type} {make : β → Entry} (hmake : ∀ b, view (make b) = none)
    (journal : Journal) (items : List β) :
    (journal.append (items.map make)).viewed view = journal.viewed view := by
  have hnil : (items.map make).filterMap view = [] := by
    rw [List.filterMap_map, List.filterMap_eq_nil_iff]
    exact fun b _ => hmake b
  rw [viewed_append, hnil, List.append_nil]

end Views

/-! ## Balances -/

section Weights

variable (weight : Entry → Int)

theorem weigh_cons (entry : Entry) (entries : List Entry) :
    weigh weight (entry :: entries) = weight entry + weigh weight entries := rfl

theorem weigh_append (entries others : List Entry) :
    weigh weight (entries ++ others) = weigh weight entries + weigh weight others := by
  induction entries with
  | nil => exact (Int.zero_add _).symm
  | cons entry rest ih =>
    rw [List.cons_append, weigh_cons, weigh_cons, ih]
    omega

theorem weigh_eq_zero {entries : List Entry} (h : ∀ e ∈ entries, weight e = 0) :
    weigh weight entries = 0 := by
  induction entries with
  | nil => rfl
  | cons entry rest ih =>
    rw [weigh_cons, h entry List.mem_cons_self, ih fun e he => h e (List.mem_cons_of_mem _ he)]
    rfl

theorem weigh_map_eq_zero {α : Type} {make : α → Entry} (hmake : ∀ a, weight (make a) = 0)
    (items : List α) : weigh weight (items.map make) = 0 := by
  apply weigh_eq_zero
  intro e he
  rcases List.mem_map.mp he with ⟨a, -, rfl⟩
  exact hmake a

/-- Entries that weigh the same when they are about `a`, and nothing when they are not. -/
theorem weigh_map {α : Type} [DecidableEq α] {a : α} {w : Int} (make : α → Entry)
    (hmake : ∀ b, weight (make b) = if b = a then w else 0) (bs : List α) :
    weigh weight (bs.map make) = bs.count a * w := by
  induction bs with
  | nil => exact (Int.zero_mul w).symm
  | cons b rest ih =>
    rw [List.map_cons, weigh_cons, ih, hmake, List.count_cons]
    by_cases h : b = a
    · simp [h, Int.add_mul, Int.add_comm]
    · simp [h]

end Weights

theorem functionBalance_append (journal : Journal) (entries : List Entry) (f : FunctionHandle) :
    (journal.append entries).functionBalance f
      = journal.functionBalance f + weigh (functionWeight f) entries := by
  rw [functionBalance, toList_append, weigh_append, functionBalance]

theorem typeBalance_append (journal : Journal) (entries : List Entry) (t : ArrayTypeHandle) :
    (journal.append entries).typeBalance t
      = journal.typeBalance t + weigh (typeWeight t) entries := by
  rw [typeBalance, toList_append, weigh_append, typeBalance]

@[simp] theorem functionBalance_push (journal : Journal) (entry : Entry) (f : FunctionHandle) :
    (journal.push entry).functionBalance f
      = journal.functionBalance f + functionWeight f entry := by
  rw [functionBalance, toList_push, weigh_append, functionBalance]
  exact congrArg _ (Int.add_zero _)

@[simp] theorem typeBalance_push (journal : Journal) (entry : Entry) (t : ArrayTypeHandle) :
    (journal.push entry).typeBalance t = journal.typeBalance t + typeWeight t entry := by
  rw [typeBalance, toList_push, weigh_append, typeBalance]
  exact congrArg _ (Int.add_zero _)

theorem functionBalance_append_retained (journal : Journal) (functions : List FunctionHandle)
    (f : FunctionHandle) :
    (journal.append (functions.map .retained)).functionBalance f
      = journal.functionBalance f + functions.count f := by
  rw [functionBalance_append, weigh_map (functionWeight f) Entry.retained (fun _ => rfl) functions,
    Int.mul_one]

theorem functionBalance_append_released (journal : Journal) (functions : List FunctionHandle)
    (f : FunctionHandle) :
    (journal.append (functions.map .released)).functionBalance f
      = journal.functionBalance f - functions.count f := by
  rw [functionBalance_append, weigh_map (functionWeight f) Entry.released (fun _ => rfl) functions]
  omega

/-- What is held is what has been taken, less what has been given back. -/
theorem functionBalance_eq_count (journal : Journal) (f : FunctionHandle) :
    journal.functionBalance f
      = (journal.viewed Entry.retained?).count f - (journal.viewed Entry.released?).count f := by
  unfold functionBalance viewed
  induction journal.toList with
  | nil => rfl
  | cons entry rest ih =>
    rw [weigh_cons, ih]
    cases entry with
    | retained g =>
      simp only [functionWeight, List.filterMap_cons, Entry.retained?, Entry.released?,
        List.count_cons, beq_iff_eq]
      split <;> omega
    | released g =>
      simp only [functionWeight, List.filterMap_cons, Entry.retained?, Entry.released?,
        List.count_cons, beq_iff_eq]
      split <;> omega
    | _ => exact Int.zero_add _

theorem typeBalance_append_released (journal : Journal) (types : List ArrayTypeHandle)
    (t : ArrayTypeHandle) :
    (journal.append (types.map .typeReleased)).typeBalance t
      = journal.typeBalance t - types.count t := by
  rw [typeBalance_append, weigh_map (typeWeight t) Entry.typeReleased (fun _ => rfl) types]
  omega

/-! ## Growth -/

/-- The later journal continues the earlier one with entries of a kind. -/
def Grows (kind : Entry → Prop) (earlier later : Journal) : Prop :=
  ∃ entries, later.toList = earlier.toList ++ entries ∧ ∀ e ∈ entries, kind e

namespace Grows

variable {kind : Entry → Prop} {j k l : Journal}

theorem refl (j : Journal) : Grows kind j j :=
  ⟨[], by simp, by simp⟩

theorem trans (h : Grows kind j k) (h' : Grows kind k l) : Grows kind j l := by
  rcases h with ⟨es, hes, hk⟩
  rcases h' with ⟨fs, hfs, hk'⟩
  refine ⟨es ++ fs, by rw [hfs, hes, List.append_assoc], ?_⟩
  intro e he
  rcases List.mem_append.mp he with he | he
  · exact hk e he
  · exact hk' e he

theorem push (h : Grows kind j k) {entry : Entry} (he : kind entry) :
    Grows kind j (k.push entry) :=
  h.trans ⟨[entry], by simp, by simpa using he⟩

theorem append (h : Grows kind j k) {entries : List Entry} (he : ∀ e ∈ entries, kind e) :
    Grows kind j (k.append entries) :=
  h.trans ⟨entries, by simp, he⟩

theorem append_map {α : Type} (h : Grows kind j k) {make : α → Entry} (items : List α)
    (hmake : ∀ a, kind (make a)) : Grows kind j (k.append (items.map make)) := by
  apply h.append
  intro e he
  rcases List.mem_map.mp he with ⟨a, -, rfl⟩
  exact hmake a

theorem mono {kind' : Entry → Prop} (h : Grows kind j k) (himp : ∀ e, kind e → kind' e) :
    Grows kind' j k := by
  rcases h with ⟨es, hes, hk⟩
  exact ⟨es, hes, fun e he => himp e (hk e he)⟩

theorem viewed_eq {α : Type} {view : Entry → Option α} (h : Grows kind j k)
    (hview : ∀ e, kind e → view e = none) : k.viewed view = j.viewed view := by
  rcases h with ⟨es, hes, hk⟩
  have hnil : es.filterMap view = [] :=
    List.filterMap_eq_nil_iff.mpr fun e he => hview e (hk e he)
  rw [viewed, hes, List.filterMap_append, hnil, List.append_nil, viewed]

/-- Entries that weigh nothing do not change the sum. -/
theorem weigh_eq {weight : Entry → Int} (h : Grows kind j k)
    (hweight : ∀ e, kind e → weight e = 0) : weigh weight k.toList = weigh weight j.toList := by
  rcases h with ⟨es, hes, hk⟩
  rw [hes, weigh_append, weigh_eq_zero weight fun e he => hweight e (hk e he), Int.add_zero]

/-! Quiet entries change no balance and no view of what scripts asked for. -/

theorem functionBalance_eq (h : Grows Entry.Quiet j k) (f : FunctionHandle) :
    k.functionBalance f = j.functionBalance f :=
  h.weigh_eq fun _ he => he.functionWeight_eq f

theorem typeBalance_eq (h : Grows Entry.Quiet j k) (t : ArrayTypeHandle) :
    k.typeBalance t = j.typeBalance t :=
  h.weigh_eq fun _ he => he.typeWeight_eq t

theorem subscriptions_eq (h : Grows Entry.Quiet j k) : k.subscriptions = j.subscriptions :=
  h.viewed_eq fun _ he => he.subscription?_eq

theorem milestones_eq (h : Grows Entry.Plain j k) :
    k.viewed Entry.milestone? = j.viewed Entry.milestone? :=
  h.viewed_eq fun _ he => he.2

end Grows

/-! ## Histories

The journal is shared: it also tells what other resources and the host do.  The history of one
resource is put together from what its own operations add. -/

/-- What has been added to a journal. -/
def since (earlier later : Journal) : List Entry :=
  later.toList.drop earlier.toList.length

/-- A history continued with what has been added to the journal. -/
def following (history earlier later : Journal) : Journal :=
  history.append (earlier.since later)

section Following

variable (history : Journal) {earlier later : Journal} {kind : Entry → Prop}

theorem Grows.toList_eq (h : Grows kind earlier later) :
    later.toList = earlier.toList ++ earlier.since later := by
  rcases h with ⟨es, hes, -⟩
  rw [since, hes, List.drop_left]

/-- A view shows of the history what it shows of the journal. -/
theorem viewed_following {α : Type} {view : Entry → Option α} {shown : List α}
    (h : Grows kind earlier later) (hview : later.viewed view = earlier.viewed view ++ shown) :
    (history.following earlier later).viewed view = history.viewed view ++ shown := by
  have hsince : (earlier.since later).filterMap view = shown := by
    rw [viewed, h.toList_eq, List.filterMap_append] at hview
    exact List.append_cancel_left hview
  rw [following, viewed_append, hsince]

/-- The history comes to show as many items of a sort as the journal does. -/
theorem count_following {α : Type} [DecidableEq α] (view : Entry → Option α) (a : α)
    (h : Grows kind earlier later) :
    ((history.following earlier later).viewed view).count a + (earlier.viewed view).count a
      = (history.viewed view).count a + (later.viewed view).count a := by
  have hlater : later.viewed view
      = earlier.viewed view ++ (earlier.since later).filterMap view := by
    rw [viewed, h.toList_eq, List.filterMap_append, viewed]
  rw [history.viewed_following h hlater, hlater, List.count_append, List.count_append]
  omega

/-- A balance changes in the history as it does in the journal. -/
theorem functionBalance_following (f : FunctionHandle) (h : Grows kind earlier later) :
    (history.following earlier later).functionBalance f - history.functionBalance f
      = later.functionBalance f - earlier.functionBalance f := by
  have hlater : later.functionBalance f = earlier.functionBalance f
      + weigh (functionWeight f) (earlier.since later) := by
    rw [functionBalance, h.toList_eq, weigh_append, functionBalance]
  rw [following, functionBalance_append, hlater]
  omega

theorem creations_following (h : Grows kind earlier later) :
    (history.following earlier later).creations + earlier.creations
      = history.creations + later.creations := by
  have hlater : later.creations
      = earlier.creations + ((earlier.since later).filterMap Entry.creation?).length := by
    rw [creations, viewed, h.toList_eq, List.filterMap_append, List.length_append, creations,
      viewed]
  have hfollowing : (history.following earlier later).creations
      = history.creations + ((earlier.since later).filterMap Entry.creation?).length := by
    rw [creations, following, viewed_append, List.length_append, creations]
  omega

end Following

end Journal

end ScriptHost
