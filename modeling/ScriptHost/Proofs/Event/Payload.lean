import Mathlib.Data.List.Forall2
import ScriptHost.Event.Builtin
import ScriptHost.Wire.HostEvent

/-!
# The payload of an event, field by field

`HostEvent.fields` lists what an event tells, under the names that its data form uses
(`payload_eq_fields`).  No two events of a category tell the same (`eq_of_fields_eq`), and the
parameters of a category's callback are declared after the fields, one for each and in their order
(`fields_declared`).
-/

namespace ScriptHost

/-- What stands in one field of a payload. -/
inductive PayloadField where
  /-- An entity, which may be missing where the event allows it. -/
  | entity (entity : Option Entity)
  | text (text : String)
  | texts (texts : List String)
  | vector (vector : Vector3)
  | scalar (value : Scalar)
  | values (values : List Value)
deriving Repr

namespace HostEvent

/-- The payload by field name. -/
def fields : HostEvent → List (String × PayloadField)
  | .playerConnect player => [("player", .entity player)]
  | .playerDisconnect player reason => [("player", .entity player), ("reason", .text reason)]
  | .playerDamage victim attacker healthDamage armourDamage weapon =>
    [("victim", .entity victim), ("attacker", .entity attacker),
      ("health_damage", .scalar (.uint16 healthDamage)),
      ("armour_damage", .scalar (.uint16 armourDamage)), ("weapon", .scalar (.uint32 weapon))]
  | .playerDeath victim killer weapon =>
    [("victim", .entity victim), ("killer", .entity killer), ("weapon", .scalar (.uint32 weapon))]
  | .playerEnterVehicle player vehicle seat =>
    [("player", .entity player), ("vehicle", .entity vehicle), ("seat", .scalar (.uint8 seat))]
  | .playerLeaveVehicle player vehicle seat =>
    [("player", .entity player), ("vehicle", .entity vehicle), ("seat", .scalar (.uint8 seat))]
  | .playerChangeVehicleSeat player vehicle oldSeat newSeat =>
    [("player", .entity player), ("vehicle", .entity vehicle),
      ("old_seat", .scalar (.uint8 oldSeat)), ("new_seat", .scalar (.uint8 newSeat))]
  | .consoleCommand name args => [("name", .text name), ("args", .texts args)]
  | .colshapeEvent colshape entity entered =>
    [("colshape", .entity colshape), ("entity", .entity entity),
      ("entered", .scalar (.bool entered))]
  | .weaponDamage source target weapon damage offset bodyPart =>
    [("source", .entity source), ("target", .entity target), ("weapon", .scalar (.uint32 weapon)),
      ("damage", .scalar (.uint16 damage)), ("offset", .vector offset),
      ("body_part", .scalar (.int8 bodyPart))]
  | .explosion source explosionType position fx target =>
    [("source", .entity source), ("explosion_type", .scalar (.int8 explosionType)),
      ("position", .vector position), ("fx", .scalar (.uint32 fx)), ("target", .entity target)]
  | .removeEntity entity => [("entity", .entity entity)]
  | .resourceStart resource => [("resource", .text resource)]
  | .resourceStop resource => [("resource", .text resource)]
  | .localScriptEvent name args => [("name", .text name), ("args", .values args)]
  | .remoteScriptEvent name player args =>
    [("name", .text name), ("player", .entity player), ("args", .values args)]
  | .tick => []

end HostEvent

/-! ## Fields and their data form -/

namespace PayloadField

open Wire

/-- The data form of the scalars that payloads hold; no event has a float of its own. -/
def scalarToJson : Scalar → Json
  | .bool b => .bool b
  | .int8 n => .int n.toInt
  | .uint8 n => .int n.toNat
  | .int16 n => .int n.toInt
  | .uint16 n => .int n.toNat
  | .int32 n => .int n.toInt
  | .uint32 n => .int n.toNat
  | .int64 n => .int n.toInt
  | .uint64 n => .int n.toNat
  | .float x => writeBinary32 x
  | .double x => writeBinary64 x

def toJson : PayloadField → Json
  | entity e => writeOption Entity.toJson e
  | text s => .str s
  | texts items => .arr (items.map .str)
  | vector v => v.toJson
  | scalar value => scalarToJson value
  | values items => .arr (Value.listToJson items)

end PayloadField

namespace HostEvent

/-- The fields are those of the data form, under the same names and in the same order. -/
theorem payload_eq_fields (event : HostEvent) :
    event.payload = event.fields.map fun (name, field) => (name, field.toJson) := by
  cases event <;> rfl

/-- Events of a category with the same fields are the same. -/
theorem eq_of_fields_eq {event other : HostEvent} (htype : other.type = event.type)
    (hfields : event.fields.map (·.2) = other.fields.map (·.2)) : event = other := by
  -- of two events of a category, both are made by the same constructor
  cases event <;> cases other <;> cases htype
  all_goals
    simp only [fields, List.map_cons, List.map_nil, List.cons.injEq, PayloadField.entity.injEq,
      PayloadField.text.injEq, PayloadField.texts.injEq, PayloadField.vector.injEq,
      PayloadField.scalar.injEq, PayloadField.values.injEq, Scalar.bool.injEq, Scalar.int8.injEq,
      Scalar.uint8.injEq, Scalar.uint16.injEq, Scalar.uint32.injEq, Option.some.injEq,
      and_true] at hfields
    simp only [hfields]

end HostEvent

/-! ## Declared fields -/

namespace Builtin

/-- The parameter that a field is declared as. -/
def parameterName : String → String
  | "health_damage" => "healthDamage"
  | "armour_damage" => "armourDamage"
  | "old_seat" => "oldSeat"
  | "new_seat" => "newSeat"
  | "entered" => "state"
  | "body_part" => "bodyPart"
  | "explosion_type" => "type"
  | "fx" => "explosionFX"
  | name => name

/-- The kinds of entity that a parameter can ask for.  One that asks for an object takes entities of
every kind. -/
def narrowKinds : List EntityKind := [.player, .vehicle, .colshape]

/-- What stands in a field is of the type of a parameter, up to the kind of an entity. -/
def Suits : PayloadField → ParameterType → Prop
  | .entity _, .entity kind => kind = .object ∨ kind ∈ narrowKinds
  | .text _, .string => True
  | .texts _, .array .string => True
  | .vector _, .vector3 => True
  | .scalar value, .scalar type => type = value.type
  | _, _ => False

/-- An entity in a field is of the kind that a parameter asks for. -/
def KindFits (field : PayloadField) (type : ParameterType) : Prop :=
  ∀ entity kind, field = .entity (some entity) → type = .entity kind → kind ∈ narrowKinds →
    entity.kind = kind

/-- A field is declared as a parameter. -/
structure Declares (field : String × PayloadField) (parameter : Parameter) : Prop where
  name : parameter.name = parameterName field.1
  suits : Suits field.2 parameter.type

theorem declares_iff {field : String × PayloadField} {parameter : Parameter} :
    Declares field parameter
      ↔ parameter.name = parameterName field.1 ∧ Suits field.2 parameter.type :=
  ⟨fun h => ⟨h.name, h.suits⟩, fun h => ⟨h.1, h.2⟩⟩

/-- The parameters of a callback declare the fields of the events of its category. -/
theorem fields_declared {event : HostEvent} {parameters : List Parameter}
    (h : parameters? event.type = some parameters) :
    List.Forall₂ Declares event.fields parameters := by
  cases event with
  | localScriptEvent | remoteScriptEvent | tick => cases h
  | _ =>
    obtain rfl := Option.some.inj h
    simp [HostEvent.fields, declares_iff, parameterName, Suits, narrowKinds, Scalar.type]

end Builtin

end ScriptHost
