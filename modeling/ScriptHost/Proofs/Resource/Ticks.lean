import ScriptHost.Proofs.Resource.Timers
import ScriptHost.Proofs.Timer.Sparing

/-!
# What a tick does

A tick drops the queued timers and gives each of the others its turn, while the callbacks create and
clear timers and move the clock.  `Scene.Spares` follows the table from one turn to the next, and
`Reachable.tick_turns` tells of a whole tick which timers are called, and what becomes of each.
-/

namespace ScriptHost

open TimerEvent (creations)

variable {σ : Type} {interpreter : Interpreter σ} {context : ContextHandle}

namespace Scene

/-- What has happened to timers from one scene to a later one. -/
def happened (s t : Scene σ) : List TimerEvent :=
  t.machine.journal.timerEvents.drop s.machine.journal.timerEvents.length

/-- From one scene to another the journal tells of the events `shown`, and timers that are not
`turned` are spared. -/
structure Spares (turned : UInt32 → Prop) (shown : List TimerEvent) (s t : Scene σ) : Prop where
  told : t.machine.journal.timerEvents = s.machine.journal.timerEvents ++ shown
  table : ∀ n, s.bindings.timers.Numbered n → n + creations shown < UInt32.size - 1 →
    s.bindings.timers.Spares turned n shown t.bindings.timers

namespace Spares

variable {turned turned' : UInt32 → Prop} {shown shown' : List TimerEvent} {s t u : Scene σ}

theorem happened_eq (h : Spares turned shown s t) : s.happened t = shown := by
  rw [happened, h.told, List.drop_left]

theorem of_timers (htold : t.machine.journal.timerEvents = s.machine.journal.timerEvents)
    (htimers : ∀ n, s.bindings.timers.Numbered n →
      s.bindings.timers.Spares turned n [] t.bindings.timers) :
    Spares turned [] s t :=
  ⟨htold.trans (List.append_nil _).symm, fun n hnumbered _ => htimers n hnumbered⟩

theorem refl (s : Scene σ) : Spares turned [] s s :=
  of_timers rfl fun _ => .refl

theorem trans (h : Spares turned shown s t) (h' : Spares turned' shown' t u) :
    Spares (fun id => turned id ∨ turned' id) (shown ++ shown') s u := by
  refine ⟨?_, ?_⟩
  · rw [h'.told, h.told, List.append_assoc]
  · intro n hnumbered hbound
    rw [TimerTable.creations_append] at hbound
    have hfirst := h.table n hnumbered (by omega)
    have hsecond := h'.table (n + creations shown) hfirst.numbered (by omega)
    exact hfirst.trans hsecond

theorem mono (h : Spares turned shown s t) (hmono : ∀ id, turned id → turned' id) :
    Spares turned' shown s t :=
  ⟨h.told, fun n hnumbered hbound => (h.table n hnumbered hbound).mono hmono⟩

/-- Two stretches in which the same timers have their turns. -/
theorem append (h : Spares turned shown s t) (h' : Spares turned shown' t u) :
    Spares turned (shown ++ shown') s u :=
  (h.trans h').mono fun _ hid => hid.elim (fun hid => hid) fun hid => hid

theorem of_moves {allowed : HostFunction → List HostArgument → Prop}
    (h : ScriptMoves interpreter allowed s t) : ∃ shown, Spares turned shown s t := by
  induction h with
  | refl => exact ⟨[], refl s⟩
  | tail _ hmove ih =>
    obtain ⟨shown, hbefore⟩ := ih
    obtain ⟨shown', htold, hstep⟩ := hmove.timerStep
    have hlast : Spares turned shown' _ _ :=
      ⟨htold, fun n hnumbered hbound => .scriptStep hnumbered hstep hbound⟩
    exact ⟨shown ++ shown', hbefore.append hlast⟩

theorem log (s : Scene σ) (notice : Notice) : Spares turned [] s (s.log notice) :=
  of_timers ((Journal.viewed_push _ _ _).trans (List.append_nil _)) fun _ => .refl

theorem of_logs (h : Relation.ReflTransGen LogMove s t) : Spares turned [] s t := by
  induction h with
  | refl => exact refl s
  | tail _ hmove ih =>
    cases hmove with
    | log => exact ih.append (log _ _)

end Spares

end Scene

/-! ## A single turn -/

namespace TimerTurn

variable {turn : TimerTurn σ}

/-- What the turn leaves of its timer. -/
def leaves (turn : TimerTurn σ) (timer : Timer) : Timer :=
  if turn.call?.isSome then { timer with lastRun := turn.start.machine.now } else timer

/-- The turn of a timer in a tick that runs timers from the scene `s` on and ends in `t`.  The timer
is called exactly if it has not been cleared since `s`, and its interval is over. -/
structure Fair (interpreter : Interpreter σ) (context : ContextHandle) (s t : Scene σ)
    (timer : Timer) (turn : TimerTurn σ) : Prop where
  /-- Until its turn, nothing has changed about the timer. -/
  untouched : turn.start.bindings.timers.find? turn.id = some timer
  called_iff : turn.call?.isSome = true
    ↔ .cleared turn.id ∉ s.happened turn.start ∧
      timer.interval ≤ turn.start.machine.now.elapsedSince timer.lastRun
  /-- The callback is called right then, when the timer has been restarted. -/
  call : ∀ c, turn.call? = some c → c.Made interpreter context ∧
    c.cause = .timer turn.id ∧ c.function = timer.callback ∧ c.args = [] ∧
    c.start.machine = turn.start.machine ∧
    c.start.bindings.timers.find? turn.id = some (turn.leaves timer)
  left : t.bindings.timers.find? turn.id = some (turn.leaves timer)
  pending_iff : t.bindings.timers.isPending turn.id = true
    ↔ .cleared turn.id ∈ s.happened t ∨ (turn.call?.isSome = true ∧ timer.once = true)

/-- A timer that is called is polled, its callback works in a stretch that spares all timers, this
one too, and it is queued if it fires once.  The whole turn spares all others. -/
theorem Taken.stretch (h : turn.Taken interpreter context) :
    (turn.call? = none ∧ turn.finish = turn.start ∧
      ∀ timer, ¬ turn.start.bindings.timers.Due turn.id turn.start.machine.now timer) ∨
    ∃ timer c u shown, turn.call? = some c ∧
      turn.start.bindings.timers.Due turn.id turn.start.machine.now timer ∧
      c.Made interpreter context ∧ c.start = (turn.start.pollTimer turn.id).2 ∧
      c.cause = .timer turn.id ∧ c.function = timer.callback ∧ c.args = [] ∧
      Scene.Spares (fun _ => False) shown c.announced u ∧
      turn.finish = (if timer.once then u.removeTimer turn.id else u) ∧
      Scene.Spares (· = turn.id) (.called turn.id :: shown) turn.start turn.finish := by
  cases h with
  | passed hnot => exact Or.inl ⟨rfl, rfl, hnot⟩
  | @fired id s u timer c hdue hmade hstart hcause hfunction hargs hlogs =>
    have hmoves := hmade.during.moves interpreter.asksOnly_anyCall
    obtain ⟨shown, hworked⟩ : ∃ shown, Scene.Spares (fun _ => False) shown c.announced c.finish :=
      Scene.Spares.of_moves hmoves
    have hran : Scene.Spares (fun _ => False) shown c.announced u := by
      have hlogged := hworked.append (.of_logs hlogs)
      rwa [List.append_nil] at hlogged
    have hpolled : Scene.Spares (· = id) [] s c.start := by
      have hpoll (n : Nat) (hnumbered : s.bindings.timers.Numbered n) :
          s.bindings.timers.Spares (· = id) n [] (s.bindings.timers.poll id s.machine.now).2 :=
        .poll hnumbered (by rfl) _
      rw [hstart]
      exact .of_timers rfl hpoll
    have hannounced : Scene.Spares (· = id) [.called id] c.start c.announced := by
      refine ⟨?_, fun n hnumbered _ => .call hnumbered rfl⟩
      rw [ScriptCall.announced, hcause]
      exact Journal.viewed_push _ _ _
    have hended : Scene.Spares (· = id) [] u (if timer.once then u.removeTimer id else u) := by
      cases timer.once with
      | false => exact .refl u
      | true => exact .of_timers rfl fun n hnumbered => .remove hnumbered rfl
    have hcalled : Scene.Spares (· = id) shown c.announced u :=
      hran.mono fun _ hfalse => hfalse.elim
    have hwhole := hpolled.append (hannounced.append (hcalled.append hended))
    rw [List.append_nil] at hwhole
    exact Or.inr ⟨timer, c, u, shown, rfl, hdue, hmade, hstart, hcause, hfunction, hargs, hran, rfl,
      hwhole⟩

theorem Taken.spares (h : turn.Taken interpreter context) :
    ∃ shown, Scene.Spares (· = turn.id) shown turn.start turn.finish := by
  rcases h.stretch with ⟨-, hfinish, -⟩ | ⟨_, _, _, shown, -, -, -, -, -, -, -, -, -, hwhole⟩
  · rw [hfinish]
    exact ⟨[], .refl _⟩
  · exact ⟨_, hwhole⟩

/-- What a turn is to its own timer. -/
theorem Taken.own (h : turn.Taken interpreter context) {n : Nat}
    (hnumbered : turn.start.bindings.timers.Numbered n)
    (hbound : n + creations (turn.start.happened turn.finish) < UInt32.size - 1) {timer : Timer}
    (hfind : turn.start.bindings.timers.find? turn.id = some timer) :
    (turn.call?.isSome = true ↔ turn.start.bindings.timers.isPending turn.id = false ∧
      timer.interval ≤ turn.start.machine.now.elapsedSince timer.lastRun) ∧
    (∀ c, turn.call? = some c → c.Made interpreter context ∧
      c.cause = .timer turn.id ∧ c.function = timer.callback ∧ c.args = [] ∧
      c.start.machine = turn.start.machine ∧
      c.start.bindings.timers.find? turn.id = some (turn.leaves timer)) ∧
    turn.finish.bindings.timers.find? turn.id = some (turn.leaves timer) ∧
    (turn.finish.bindings.timers.isPending turn.id = true
      ↔ turn.start.bindings.timers.isPending turn.id = true ∨
        .cleared turn.id ∈ turn.start.happened turn.finish ∨
        (turn.call?.isSome = true ∧ timer.once = true)) := by
  rcases h.stretch with ⟨hcall, hfinish, hnot⟩ |
    ⟨due, c, u, shown, hcall, hdue, hmade, hstart, hcause, hfunction, hargs, hran, hfinish, hwhole⟩
  · have hnone : turn.start.happened turn.finish = [] := by
      have hstill : Scene.Spares (· = turn.id) [] turn.start turn.finish := by
        rw [hfinish]
        exact .refl _
      exact hstill.happened_eq
    have hidle : ¬ (turn.start.bindings.timers.isPending turn.id = false ∧
        timer.interval ≤ turn.start.machine.now.elapsedSince timer.lastRun) :=
      fun hdue => hnot timer ⟨hfind, hdue.1, hdue.2⟩
    refine ⟨?_, ?_, ?_, ?_⟩
    · rw [hcall]
      exact iff_of_false (by simp) hidle
    · intro c hc
      rw [hcall] at hc
      cases hc
    · rw [hfinish, leaves, hcall]
      exact hfind
    · rw [hnone, hfinish, hcall]
      simp
  · obtain rfl : due = timer := Option.some.inj (hdue.found.symm.trans hfind)
    have hsome : turn.call?.isSome = true := by
      rw [hcall]
      rfl
    have hrestarted : c.start.bindings.timers.find? turn.id = some (turn.leaves due) := by
      rw [hstart, find?_pollTimer hdue, leaves, if_pos hsome]
    -- while the callback works, the timer is spared as all others are
    rw [hwhole.happened_eq, TimerEvent.creations, List.countP_cons] at hbound
    have hpolled : c.start.bindings.timers.Numbered n := by
      rw [hstart]
      exact hnumbered.poll turn.id _
    have hworked := hran.table n hpolled hbound
    have hkept : u.bindings.timers.find? turn.id = some (turn.leaves due) :=
      (hworked.find?_eq turn.id not_false (hnumbered.le_of_find? hfind)).trans hrestarted
    have hqueued : u.bindings.timers.isPending turn.id = true ↔ .cleared turn.id ∈ shown := by
      have hactive : c.start.bindings.timers.isPending turn.id = false := by
        rw [hstart, Scene.bindings_pollTimer, TimerTable.isPending_poll, hdue.not_pending]
      rw [hworked.pending_iff turn.id not_false]
      simp [ScriptCall.announced, hactive]
    refine ⟨?_, ?_, ?_, ?_⟩
    · exact iff_of_true hsome ⟨hdue.not_pending, hdue.elapsed⟩
    · intro c' hc'
      rw [hcall] at hc'
      obtain rfl := Option.some.inj hc'
      refine ⟨hmade, hcause, hfunction, hargs, ?_, hrestarted⟩
      rw [hstart, Scene.machine_pollTimer]
    · rw [hfinish]
      cases due.once with
      | false => exact hkept
      | true => exact (TimerTable.find?_remove _ _ _).trans hkept
    · rw [hwhole.happened_eq, hfinish, hdue.not_pending, hsome]
      cases due.once with
      | false => simpa using hqueued
      | true => simp [TimerTable.isPending_remove]

/-- A turn is fair, if the stretches before and after it have been none of its own. -/
theorem Taken.fair (h : turn.Taken interpreter context) {before after : UInt32 → Prop}
    {shown shown' : List TimerEvent} {s t : Scene σ}
    (hbefore : Scene.Spares before shown s turn.start) (hnotBefore : ¬ before turn.id)
    (hafter : Scene.Spares after shown' turn.finish t) (hnotAfter : ¬ after turn.id) {n : Nat}
    (hnumbered : s.bindings.timers.Numbered n)
    (hbound : n + creations (s.happened t) < UInt32.size - 1) {timer : Timer}
    (hfind : s.bindings.timers.find? turn.id = some timer)
    (hactive : s.bindings.timers.isPending turn.id = false) :
    turn.Fair interpreter context s t timer := by
  obtain ⟨own, hown⟩ := h.spares
  have hwhole := ((hbefore.trans hown).trans hafter).happened_eq
  rw [hwhole, TimerTable.creations_append, TimerTable.creations_append] at hbound
  -- the table at the beginning of the turn, at its end, and at the end of the tick
  have hstart := hbefore.table n hnumbered (by omega)
  have hfinish := hown.table (n + creations shown) hstart.numbered (by omega)
  have hend := hafter.table (n + creations shown + creations own) hfinish.numbered (by omega)
  have hid := hnumbered.le_of_find? hfind
  have huntouched := (hstart.find?_eq turn.id hnotBefore hid).trans hfind
  have hcleared : turn.start.bindings.timers.isPending turn.id = true
      ↔ .cleared turn.id ∈ shown := by
    rw [hstart.pending_iff turn.id hnotBefore, hactive]
    simp
  have hownBound : n + creations shown + creations (turn.start.happened turn.finish)
      < UInt32.size - 1 := by
    rw [hown.happened_eq]
    omega
  obtain ⟨hcalled, hcall, hleft, hpending⟩ := h.own hstart.numbered hownBound huntouched
  refine ⟨huntouched, ?_, hcall, ?_, ?_⟩
  · rw [hcalled, hbefore.happened_eq, ← hcleared, Bool.not_eq_true]
  · rw [hend.find?_eq turn.id hnotAfter (by omega), hleft]
  · rw [hend.pending_iff turn.id hnotAfter, hpending, hcleared, hown.happened_eq, hwhole,
      List.mem_append, List.mem_append, ← or_assoc, or_right_comm]

end TimerTurn

/-! ## Whole ticks -/

theorem TurnsBetween.spares {turns : List (TimerTurn σ)} {s t : Scene σ}
    (h : TurnsBetween interpreter context turns s t) :
    ∃ shown, Scene.Spares (fun id => id ∈ turns.map (·.id)) shown s t := by
  induction h with
  | none s => exact ⟨[], .refl s⟩
  | @next turn turns t htaken _ ih =>
    obtain ⟨shown, hfirst⟩ := htaken.spares
    obtain ⟨shown', hrest⟩ := ih
    refine ⟨shown ++ shown', (hfirst.trans hrest).mono ?_⟩
    intro id hid
    rw [List.map_cons, List.mem_cons]
    exact hid

/-- If no timer has two turns, all turns are fair. -/
theorem TurnsBetween.fair {turns : List (TimerTurn σ)} {s t : Scene σ}
    (h : TurnsBetween interpreter context turns s t) (hnodup : (turns.map (·.id)).Nodup) {n : Nat}
    (hnumbered : s.bindings.timers.Numbered n)
    (hbound : n + creations (s.happened t) < UInt32.size - 1) {turn : TimerTurn σ}
    (hturn : turn ∈ turns) {timer : Timer}
    (hfind : s.bindings.timers.find? turn.id = some timer)
    (hactive : s.bindings.timers.isPending turn.id = false) :
    turn.Fair interpreter context s t timer := by
  obtain ⟨earlier, later, rfl⟩ := List.append_of_mem hturn
  obtain ⟨hearlier, htaken, hlater⟩ := h.split
  obtain ⟨shown, hbefore⟩ := hearlier.spares
  obtain ⟨shown', hafter⟩ := hlater.spares
  rw [List.map_append, List.map_cons, List.nodup_append, List.nodup_cons] at hnodup
  obtain ⟨-, ⟨hnotAfter, -⟩, hdisjoint⟩ := hnodup
  have hnotBefore : turn.id ∉ earlier.map (·.id) :=
    fun hmem => hdisjoint _ hmem _ List.mem_cons_self rfl
  exact htaken.fair hbefore hnotBefore hafter hnotAfter hnumbered hbound hfind hactive

namespace Resource

/-- What a tick of a running resource comes to, if it gives timers these turns, from the scene `s`
up to `t`. -/
structure Ticks (interpreter : Interpreter σ) (r : Resource σ) (m : Machine σ)
    (context : ContextHandle) (turns : List (TimerTurn σ)) (s t : Scene σ) : Prop where
  result : (r.perform interpreter .tick m).2 = (r.adopt t, t.machine)
  /-- Before the first turn, the queued timers are taken out of the table, ... -/
  dropped : s.bindings = { r.bindings with
    timers := { r.bindings.timers with
      timers := r.bindings.timers.timers.filter fun (id, _) => !r.bindings.timers.isPending id
      pending := [] } }
  /-- ... and their callbacks are given back; nothing else happens. -/
  released : s.machine = m.releaseFunctions (r.bindings.timers.queued.map (·.2.callback))
  /-- The turns are those of all other timers, once and in the order of their creation. -/
  ids_eq : turns.map (·.id) = r.bindings.timers.activeIds
  ascending : (turns.map (·.id)).Pairwise (· < ·)
  run : TurnsBetween interpreter context turns s t
  fair : ∀ turn ∈ turns, ∃ timer, r.bindings.timers.find? turn.id = some timer ∧
    turn.Fair interpreter context s t timer
  /-- Timers that are created have no turn, are not called, and stay. -/
  created : ∀ id once, .created id once ∈ s.happened t →
    id ∉ turns.map (·.id) ∧ .called id ∉ s.happened t ∧ t.bindings.timers.contains id = true
  /-- There are no others in the end. -/
  contains_iff : ∀ id, t.bindings.timers.contains id = true
    ↔ id ∈ turns.map (·.id) ∨ ∃ once, .created id once ∈ s.happened t
  pending_iff : ∀ id, id ∉ turns.map (·.id) →
    (t.bindings.timers.isPending id = true ↔ .cleared id ∈ s.happened t)
  calls : t.machine.journal.calls
    = m.journal.calls ++ (turns.filterMap (·.call?)).map (·.summary)

variable {history : Journal} {r : Resource σ} {m : Machine σ}

/-- At the beginning of a tick, so few ids have been given out that they last for it. -/
theorem Reachable.tick_numbered (h : Reachable interpreter history r m) {s t : Scene σ}
    {turned : UInt32 → Prop} {shown : List TimerEvent}
    (hbound : (history.following m.journal t.machine.journal).creations < UInt32.size - 1)
    (hs : s = (r.scene m).flushTimers) (hspares : Scene.Spares turned shown s t)
    (hgrows : m.journal.Grows (fun _ => True) t.machine.journal) :
    ∃ n, s.bindings.timers.Numbered n ∧ n + creations shown < UInt32.size - 1 := by
  have hbefore := history.creations_le_following m.journal t.machine.journal
  have hagrees := h.agrees (Nat.lt_of_le_of_lt hbefore hbound)
  have htold : t.machine.journal.timerEvents = m.journal.timerEvents ++ shown := by
    rw [hspares.told, hs]
    exact congrArg (· ++ shown) ((r.scene m).viewed_flushTimers fun _ => rfl)
  have hevents : (history.following m.journal t.machine.journal).timerEvents
      = history.timerEvents ++ shown := history.viewed_following hgrows htold
  have hcounted := (history.following m.journal t.machine.journal).creations_timerEvents_le
  rw [hevents, TimerTable.creations_append] at hcounted
  refine ⟨creations history.timerEvents, ?_, by omega⟩
  rw [hs]
  exact hagrees.numbered.flush

/-- One tick of a running resource does what it should, whatever the callbacks do, as long as the
ids of timers have not run out.  It drops the queued timers, and gives each of the others one turn,
in the order of their creation.  At its turn a timer is called if and only if no callback of this
tick has cleared it and its interval is over, which then starts anew.  In the end, cleared timers and
those that fire once and have been called are queued, all else is as it was, and the timers created
on the way are there, uncalled. -/
theorem Reachable.tick_turns (h : Reachable interpreter history r m) (hphase : r.phase = .running)
    (hbound : (history.following m.journal
      (r.perform interpreter .tick m).2.2.journal).creations < UInt32.size - 1) :
    ∃ context turns s t, r.context = some context ∧ r.Ticks interpreter m context turns s t := by
  have hsound := h.sound
  have hrun : r.isRunning = true := decide_eq_true hphase
  obtain ⟨context, hcontext⟩ :=
    Option.isSome_iff_exists.mp (hsound.lived.context_isSome hrun)
  let s := (r.scene m).flushTimers
  let t := s.bindings.timers.ids.foldl (fun s id => r.runTimer interpreter r.context id s) s
  have hresult : (r.perform interpreter .tick m).2 = (r.adopt t, t.machine) :=
    perform_tick interpreter hphase
  have hgrows := perform_grows interpreter r m hsound.lived .tick
  rw [hresult] at hbound hgrows
  obtain ⟨turns, hids, hturns⟩ : ∃ turns, turns.map (·.id) = s.bindings.timers.ids ∧
      TurnsBetween interpreter context turns s t := by
    have hrest := r.runTimers_turns interpreter context s.bindings.timers.ids s
    rwa [← hcontext] at hrest
  obtain ⟨shown, hspares⟩ := hturns.spares
  obtain ⟨n, hnumbered, hroom⟩ := h.tick_numbered hbound rfl hspares hgrows
  have htable := hspares.table n hnumbered hroom
  have hhappened := hspares.happened_eq
  have hactive : s.bindings.timers.ids = r.bindings.timers.activeIds :=
    r.bindings.timers.ids_flush
  have hascending : (turns.map (·.id)).Pairwise (· < ·) := by
    rw [hids]
    exact hsound.covers.wellFormed.flush.ascending
  have hpresent (id : UInt32) : id ∈ turns.map (·.id) ↔ s.bindings.timers.contains id = true := by
    rw [hids, TimerTable.mem_ids]
  have hqueue (id : UInt32) : s.bindings.timers.isPending id = false := rfl
  refine ⟨context, turns, s, t, hcontext, hresult, rfl, ?_, hids.trans hactive, hascending, hturns,
    ?_, ?_, ?_, ?_, ?_⟩
  · show m.releaseFunctions r.bindings.timers.flush.1 = _
    rw [TimerTable.flush_eq_queued]
  · intro turn hturn
    obtain ⟨timer, hfind⟩ :=
      Option.isSome_iff_exists.mp ((hpresent turn.id).mp (List.mem_map_of_mem hturn))
    have hbefore : r.bindings.timers.find? turn.id = some timer := by
      have hflushed := (r.bindings.timers.find?_flush turn.id).symm.trans hfind
      split at hflushed
      · cases hflushed
      · exact hflushed
    have hnodup : (turns.map (·.id)).Nodup := by
      rw [hids]
      exact hsound.covers.wellFormed.flush.ascending.nodup
    rw [← hhappened] at hroom
    exact ⟨timer, hbefore, hturns.fair hnodup hnumbered hroom hturn hfind (hqueue turn.id)⟩
  · intro id once hcreated
    rw [hhappened] at hcreated ⊢
    obtain ⟨hnew, hcontains⟩ := htable.created id once hcreated
    have hnone : id ∉ turns.map (·.id) := by
      intro hid
      obtain ⟨timer, hfind⟩ := Option.isSome_iff_exists.mp ((hpresent id).mp hid)
      have hold := hnumbered.le_of_find? hfind
      omega
    exact ⟨hnone, fun hcalled => hnone (htable.called id hcalled), hcontains⟩
  · intro id
    rw [hhappened, hpresent]
    constructor
    · exact htable.contained id
    · rintro (hbefore | ⟨once, hcreated⟩)
      · exact htable.contains id hbefore
      · exact (htable.created id once hcreated).2
  · intro id hid
    rw [hhappened, htable.pending_iff id hid, hqueue]
    simp
  · rw [hturns.callsBetween.calls_eq fun _ _ => HostMove.calls_eq]
    exact congrArg (· ++ _) ((r.scene m).viewed_flushTimers fun _ => rfl)

end Resource

/-- The second tick of the sample drops the first timer, and gives the second one its turn. -/
theorem Sample.tick_turns_ticked :
    (Sample.tickedHistory.following Sample.ticked.2.journal
      (Sample.ticked.1.perform Sample.rescheduler .tick Sample.ticked.2).2.2.journal).creations
        < UInt32.size - 1 ∧
    Sample.ticked.1.phase = .running ∧
    ∃ context turns s t, turns.map (·.id) = [2] ∧
      Sample.ticked.1.Ticks Sample.rescheduler Sample.ticked.2 context turns s t := by
  have hbound : (Sample.tickedHistory.following Sample.ticked.2.journal
      (Sample.ticked.1.perform Sample.rescheduler .tick Sample.ticked.2).2.2.journal).creations
        < UInt32.size - 1 := by
    decide +kernel
  have hphase : Sample.ticked.1.phase = .running := by decide +kernel
  obtain ⟨context, turns, s, t, -, hticks⟩ :=
    Sample.reachable_ticked.tick_turns hphase hbound
  have hactive : Sample.ticked.1.bindings.timers.activeIds = [2] := by decide +kernel
  exact ⟨hbound, hphase, context, turns, s, t, hticks.ids_eq.trans hactive, hticks⟩

end ScriptHost
