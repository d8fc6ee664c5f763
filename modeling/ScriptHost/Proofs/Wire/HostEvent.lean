import ScriptHost.Proofs.Wire.Value
import ScriptHost.Wire.HostEvent

/-!
# Events read back

Reading what was written of an event gives the event (`ofJson?_toJson`).  With the same of values
this makes writing injective, and turns whatever was read into a tree that reading and writing leave
as it is (`wire_roundtrip`).
-/

namespace ScriptHost

theorem EventType.ofName?_name (type : EventType) : EventType.ofName? type.name = some type := by
  cases type <;> simp [EventType.ofName?, EventType.all, EventType.name]

namespace HostEvent

open Wire

/-- The values in the payload. -/
def values : HostEvent → List Value
  | localScriptEvent _ args => args
  | remoteScriptEvent _ _ args => args
  | _ => []

/-- The positions and offsets in the payload. -/
def vectors : HostEvent → List Vector3
  | weaponDamage _ _ _ _ offset _ => [offset]
  | explosion _ _ position _ _ => [position]
  | _ => []

/-- Every float in the payload is finite. -/
structure Finite (event : HostEvent) : Prop where
  values : ∀ v ∈ event.values, v.Finite
  vectors : ∀ p ∈ event.vectors, p.Finite

/-- Every dictionary in the payload has its entries by ascending key. -/
def Ordered (event : HostEvent) : Prop :=
  ∀ v ∈ event.values, v.Ordered

/-! ## Reading what was written -/

/-- The payload of an event is read as the event. -/
theorem ofPayload?_payload {event : HostEvent} (hordered : event.Ordered)
    (hfinite : event.Finite) (htick : event ≠ .tick) :
    ofPayload? event.type event.payload = some event := by
  cases event with
  | tick => exact absurd rfl htick
  | localScriptEvent name args =>
    have hargs : Value.listOfJson? (Value.listToJson args) = some args :=
      Value.listOfJson?_toJson args (Value.orderedList_iff.mpr hordered)
        (Value.finiteList_iff.mpr hfinite.values)
    simp [type, payload, ofPayload?, Json.member?, readString?, hargs]
  | remoteScriptEvent name player args =>
    have hargs : Value.listOfJson? (Value.listToJson args) = some args :=
      Value.listOfJson?_toJson args (Value.orderedList_iff.mpr hordered)
        (Value.finiteList_iff.mpr hfinite.values)
    simp [type, payload, ofPayload?, Json.member?, readString?, hargs]
  -- where a 32-bit number is read, every step is written out: unfolding its bound is too deep
  | weaponDamage source target weapon damage offset bodyPart =>
    have hoffset := Vector3.ofJson?_toJson (hfinite.vectors offset List.mem_cons_self)
    simp -implicitDefEqProofs [type, payload, ofPayload?, Json.member?, hoffset]
  | explosion source explosionType position fx target =>
    have hposition := Vector3.ofJson?_toJson (hfinite.vectors position List.mem_cons_self)
    simp -implicitDefEqProofs [type, payload, ofPayload?, Json.member?, hposition]
  | playerDamage | playerDeath =>
    simp -implicitDefEqProofs [type, payload, ofPayload?, Json.member?]
  | _ => simp [type, payload, ofPayload?, Json.member?, readString?, readBool?]

/-- An event is read as what it was when it was written. -/
theorem ofJson?_toJson {event : HostEvent} (hordered : event.Ordered) (hfinite : event.Finite) :
    ofJson? event.toJson = some event := by
  by_cases htick : event = .tick
  · rw [htick]
    rfl
  · have hpayload := ofPayload?_payload hordered hfinite htick
    have hjson : event.toJson = .obj [(event.type.name, .obj event.payload)] := by
      cases event with
      | tick => exact absurd rfl htick
      | _ => rfl
    rw [hjson, ofJson?, EventType.ofName?_name, Option.bind_eq_bind, Option.bind_some, hpayload]

/-! ## Whatever is read is in order -/

/-- What holds whatever the first reading gives holds of the whole. -/
theorem forall_of_bind {α β : Type} {x : Option α} {f : α → Option β} {P : β → Prop}
    (h : ∀ a b, f a = some b → P b) : ∀ b, (x >>= f) = some b → P b := by
  intro b hb
  obtain ⟨a, -, ha⟩ := Option.bind_eq_some_iff.mp hb
  exact h a b ha

/-- What is read of a payload has its dictionaries in order. -/
theorem ordered_of_ofPayload? (type : EventType) (members : List (String × Json)) :
    ∀ event, ofPayload? type members = some event → event.Ordered := by
  cases type with
  | tick =>
    intro event h
    cases h
  | localScriptEvent =>
    intro event h
    simp only [ofPayload?, Option.bind_eq_bind, Option.bind_eq_some_iff, Option.pure_def] at h
    obtain ⟨name, -, args, ⟨json, -, hread⟩, heq⟩ := h
    cases heq
    split at hread
    · exact Value.orderedList_iff.mp (Value.ordered_of_listOfJson? _ hread)
    · cases hread
  | remoteScriptEvent =>
    intro event h
    simp only [ofPayload?, Option.bind_eq_bind, Option.bind_eq_some_iff, Option.pure_def] at h
    obtain ⟨name, -, player, -, args, ⟨json, -, hread⟩, heq⟩ := h
    cases heq
    split at hread
    · exact Value.orderedList_iff.mp (Value.ordered_of_listOfJson? _ hread)
    · cases hread
  | _ =>
    -- the other payloads hold no values, whatever their fields are
    simp only [ofPayload?]
    repeat refine forall_of_bind fun _ => ?_
    intro event h
    cases h
    intro v hv
    cases hv

theorem ordered_of_ofJson? {json : Json} {event : HostEvent} (h : ofJson? json = some event) :
    event.Ordered := by
  unfold ofJson? at h
  split at h
  · split at h
    · cases h
      exact nofun
    · cases h
  · split at h
    · cases h
      exact nofun
    · cases h
  · obtain ⟨type, -, hpayload⟩ := Option.bind_eq_some_iff.mp h
    exact ordered_of_ofPayload? type _ event hpayload
  · cases h

/-! ## Values and events -/

/-- With finite floats, values and events are read as they were written, so nothing is written alike
that is not the same.  Whatever tree was read, writing the result gives a tree that is read as the
result again, and is written as it is. -/
theorem wire_roundtrip :
    (∀ v : Value, v.Ordered → v.Finite → Value.ofJson? v.toJson = some v) ∧
    (∀ event : HostEvent, event.Ordered → event.Finite → ofJson? event.toJson = some event) ∧
    (∀ v w : Value, v.Ordered → v.Finite → w.Ordered → w.Finite → v.toJson = w.toJson → v = w) ∧
    (∀ event other : HostEvent, event.Ordered → event.Finite → other.Ordered → other.Finite →
      event.toJson = other.toJson → event = other) ∧
    (∀ json v, Value.ofJson? json = some v → v.Finite →
      Value.ofJson? v.toJson = some v ∧
        (Value.ofJson? v.toJson).map Value.toJson = some v.toJson) ∧
    ∀ json event, ofJson? json = some event → event.Finite →
      ofJson? event.toJson = some event ∧
        (ofJson? event.toJson).map toJson = some event.toJson := by
  refine ⟨Value.ofJson?_toJson, fun event => ofJson?_toJson, ?_, ?_, ?_, ?_⟩
  · intro v w hv hv' hw hw' heq
    have hread := Value.ofJson?_toJson v hv hv'
    rw [heq, Value.ofJson?_toJson w hw hw'] at hread
    exact (Option.some.inj hread).symm
  · intro event other hevent hevent' hother hother' heq
    have hread := ofJson?_toJson hevent hevent'
    rw [heq, ofJson?_toJson hother hother'] at hread
    exact (Option.some.inj hread).symm
  · intro json v h hfinite
    have hread := Value.ofJson?_toJson v (Value.ordered_of_ofJson? json h) hfinite
    exact ⟨hread, by rw [hread, Option.map_some]⟩
  · intro json event h hfinite
    have hread := ofJson?_toJson (ordered_of_ofJson? h) hfinite
    exact ⟨hread, by rw [hread, Option.map_some]⟩

/-- A dictionary comes back as it was; and so does a hit that was told with a position as an array
of integers, without an attacker and with a field that nobody knows. -/
theorem wire_roundtrip_spellings :
    let v : Value := .dict [("at", .vector3 ⟨⟨0x3FC00000⟩, ⟨0⟩, ⟨0x80000000⟩⟩),
      ("path", .list [.double ⟨0x3FF8000000000000⟩, .none])]
    let json : Json := .obj [("Explosion", .obj [("position", .arr [.int 1, .int 0, .int (-2)]),
      ("fx", .int 7), ("source", .arr [.obj [("Player", .null)], .int 3]), ("extra", .bool true),
      ("explosion_type", .int (-1))])]
    let event : HostEvent :=
      .explosion ⟨.player, 3⟩ (-1) ⟨⟨0x3F800000⟩, ⟨0⟩, ⟨0xC0000000⟩⟩ 7 none
    Value.ofJson? v.toJson = some v ∧ ofJson? json = some event ∧
      ofJson? event.toJson = some event := by
  intro v json event
  obtain ⟨hvalue, hevent, -, -, -, hread⟩ := wire_roundtrip
  have hjson : ofJson? json = some event := by rfl
  have hkeys : ["at", "path"].Pairwise (· < ·) := by decide
  have hordered : v.Ordered := ⟨hkeys, trivial, ⟨trivial, trivial, trivial⟩, trivial⟩
  have hfinite : v.Finite := ⟨⟨rfl, rfl, rfl⟩, ⟨⟨rfl, trivial, trivial⟩, trivial⟩⟩
  have hexplosion : event.Finite :=
    ⟨nofun, fun p hp => (List.mem_singleton.mp hp) ▸ ⟨rfl, rfl, rfl⟩⟩
  exact ⟨hvalue v hordered hfinite, hjson, (hread json event hjson hexplosion).1⟩

end HostEvent

end ScriptHost
