import ScriptHost.Event.Registry

/-!
# Builtin descriptors

The host events that scripts can subscribe to, with their parameters.  The tick and the carriers of
custom events have no descriptor.
-/

namespace ScriptHost.Builtin

/-- The argument for an entity. -/
def entityArg (entity : Entity) : Argument := .object (.entity entity)

/-- The argument for an entity that may be missing. -/
def optionalEntityArg (entity : Option Entity) : Argument := .object (.ofEntity? entity)

def stringArg (text : String) : Argument := .object (.string text)

/-- The arguments for the payload of an event, the array of command arguments being made on the
way.  Events without a descriptor have none. -/
def payloadMarshaling : HostEvent → Marshaling
  | .playerConnect player => .done [entityArg player]
  | .playerDisconnect player reason => .done [entityArg player, stringArg reason]
  | .playerDamage victim attacker healthDamage armourDamage weapon =>
    .done [entityArg victim, optionalEntityArg attacker, .scalar (.uint16 healthDamage),
      .scalar (.uint16 armourDamage), .scalar (.uint32 weapon)]
  | .playerDeath victim killer weapon =>
    .done [entityArg victim, optionalEntityArg killer, .scalar (.uint32 weapon)]
  | .playerEnterVehicle player vehicle seat =>
    .done [entityArg player, entityArg vehicle, .scalar (.uint8 seat)]
  | .playerLeaveVehicle player vehicle seat =>
    .done [entityArg player, entityArg vehicle, .scalar (.uint8 seat)]
  | .playerChangeVehicleSeat player vehicle oldSeat newSeat =>
    .done [entityArg player, entityArg vehicle, .scalar (.uint8 oldSeat),
      .scalar (.uint8 newSeat)]
  | .consoleCommand name args =>
    .array .string (args.map .string) fun array => .done [stringArg name, .object array]
  | .colshapeEvent colshape entity entered =>
    .done [entityArg colshape, entityArg entity, .scalar (.bool entered)]
  | .weaponDamage source target weapon damage offset bodyPart =>
    .done [entityArg source, entityArg target, .scalar (.uint32 weapon),
      .scalar (.uint16 damage), .object (.vector3 offset), .scalar (.int8 bodyPart)]
  | .explosion source explosionType position fx target =>
    .done [entityArg source, .scalar (.int8 explosionType), .object (.vector3 position),
      .scalar (.uint32 fx), optionalEntityArg target]
  | .removeEntity entity => .done [entityArg entity]
  | .resourceStart resource => .done [stringArg resource]
  | .resourceStop resource => .done [stringArg resource]
  | .localScriptEvent .. => .done []
  | .remoteScriptEvent .. => .done []
  | .tick => .done []

/-- The categories whose payload is read alike: a descriptor of one of them marshals the events of
all of them. -/
def family : EventType → List EventType
  | .playerEnterVehicle => [.playerEnterVehicle, .playerLeaveVehicle]
  | .playerLeaveVehicle => [.playerEnterVehicle, .playerLeaveVehicle]
  | .resourceStart => [.resourceStart, .resourceStop]
  | .resourceStop => [.resourceStart, .resourceStop]
  | type => [type]

/-- The marshaling for a category: the payload of its family's events, and nothing for others. -/
def marshalingFor (type : EventType) (event : HostEvent) : Marshaling :=
  if event.type ∈ family type then payloadMarshaling event else .done []

/-- The parameters of the callback for a category, if it has a descriptor. -/
def parameters? : EventType → Option (List Parameter)
  | .playerConnect => some [⟨.entity .player, "player"⟩]
  | .playerDisconnect => some [⟨.entity .player, "player"⟩, ⟨.string, "reason"⟩]
  | .playerDamage =>
    some [⟨.entity .player, "victim"⟩, ⟨.entity .object, "attacker"⟩,
      ⟨.scalar .uint16, "healthDamage"⟩, ⟨.scalar .uint16, "armourDamage"⟩,
      ⟨.scalar .uint32, "weapon"⟩]
  | .playerDeath =>
    some [⟨.entity .player, "victim"⟩, ⟨.entity .object, "killer"⟩, ⟨.scalar .uint32, "weapon"⟩]
  | .playerEnterVehicle | .playerLeaveVehicle =>
    some [⟨.entity .player, "player"⟩, ⟨.entity .vehicle, "vehicle"⟩, ⟨.scalar .uint8, "seat"⟩]
  | .playerChangeVehicleSeat =>
    some [⟨.entity .player, "player"⟩, ⟨.entity .vehicle, "vehicle"⟩,
      ⟨.scalar .uint8, "oldSeat"⟩, ⟨.scalar .uint8, "newSeat"⟩]
  | .consoleCommand => some [⟨.string, "name"⟩, ⟨.array .string, "args"⟩]
  | .colshapeEvent =>
    some [⟨.entity .colshape, "colshape"⟩, ⟨.entity .object, "entity"⟩, ⟨.scalar .bool, "state"⟩]
  | .weaponDamage =>
    some [⟨.entity .player, "source"⟩, ⟨.entity .object, "target"⟩, ⟨.scalar .uint32, "weapon"⟩,
      ⟨.scalar .uint16, "damage"⟩, ⟨.vector3, "offset"⟩, ⟨.scalar .int8, "bodyPart"⟩]
  | .explosion =>
    some [⟨.entity .player, "source"⟩, ⟨.scalar .int8, "type"⟩, ⟨.vector3, "position"⟩,
      ⟨.scalar .uint32, "explosionFX"⟩, ⟨.entity .object, "target"⟩]
  | .removeEntity => some [⟨.entity .object, "entity"⟩]
  | .resourceStart | .resourceStop => some [⟨.string, "resource"⟩]
  | .localScriptEvent | .remoteScriptEvent | .tick => none

/-- What the callback for a category returns: scripts may veto weapon damage and explosions. -/
def returnType? : EventType → Option ReturnType
  | .weaponDamage | .explosion => some .bool
  | _ => none

/-- The builtin descriptor of a category. -/
def descriptor? (type : EventType) : Option EventDescriptor :=
  (parameters? type).map fun parameters =>
    { type, parameters, returns := returnType? type, marshaling := marshalingFor type }

/-- The builtin descriptors, by ascending number. -/
def descriptors : List EventDescriptor :=
  EventType.all.filterMap descriptor?

/-- The registry of the builtin descriptors. -/
def registry : EventRegistry := ⟨descriptors⟩

end ScriptHost.Builtin
