import ScriptHost.HostEvent
import ScriptHost.Wire.Value

/-!
# Data form of events

An event is an object with one member: the name of its category and an object of its payload.
Further members of the payload do not matter, and an optional entity may be left out.  The tick has
no payload and is its name alone, or its name with null.
-/

namespace ScriptHost.HostEvent

open Wire

/-- The payload by field name. -/
def payload : HostEvent → List (String × Json)
  | .playerConnect player => [("player", player.toJson)]
  | .playerDisconnect player reason => [("player", player.toJson), ("reason", .str reason)]
  | .playerDamage victim attacker healthDamage armourDamage weapon =>
    [("victim", victim.toJson), ("attacker", writeOption Entity.toJson attacker),
      ("health_damage", .int healthDamage.toNat), ("armour_damage", .int armourDamage.toNat),
      ("weapon", .int weapon.toNat)]
  | .playerDeath victim killer weapon =>
    [("victim", victim.toJson), ("killer", writeOption Entity.toJson killer),
      ("weapon", .int weapon.toNat)]
  | .playerEnterVehicle player vehicle seat =>
    [("player", player.toJson), ("vehicle", vehicle.toJson), ("seat", .int seat.toNat)]
  | .playerLeaveVehicle player vehicle seat =>
    [("player", player.toJson), ("vehicle", vehicle.toJson), ("seat", .int seat.toNat)]
  | .playerChangeVehicleSeat player vehicle oldSeat newSeat =>
    [("player", player.toJson), ("vehicle", vehicle.toJson), ("old_seat", .int oldSeat.toNat),
      ("new_seat", .int newSeat.toNat)]
  | .consoleCommand name args => [("name", .str name), ("args", .arr (args.map .str))]
  | .colshapeEvent colshape entity entered =>
    [("colshape", colshape.toJson), ("entity", entity.toJson), ("entered", .bool entered)]
  | .weaponDamage source target weapon damage offset bodyPart =>
    [("source", source.toJson), ("target", target.toJson), ("weapon", .int weapon.toNat),
      ("damage", .int damage.toNat), ("offset", offset.toJson), ("body_part", .int bodyPart.toInt)]
  | .explosion source explosionType position fx target =>
    [("source", source.toJson), ("explosion_type", .int explosionType.toInt),
      ("position", position.toJson), ("fx", .int fx.toNat),
      ("target", writeOption Entity.toJson target)]
  | .removeEntity entity => [("entity", entity.toJson)]
  | .resourceStart resource => [("resource", .str resource)]
  | .resourceStop resource => [("resource", .str resource)]
  | .localScriptEvent name args => [("name", .str name), ("args", .arr (Value.listToJson args))]
  | .remoteScriptEvent name player args =>
    [("name", .str name), ("player", player.toJson), ("args", .arr (Value.listToJson args))]
  | .tick => []

def toJson (event : HostEvent) : Json :=
  match event with
  | .tick => .str event.type.name
  | _ => .obj [(event.type.name, .obj event.payload)]

/-- The event of a category with the payload `members`. -/
def ofPayload? (type : EventType) (members : List (String × Json)) : Option HostEvent :=
  let field {α : Type} (name : String) (read : Json → Option α) : Option α :=
    (Json.member? name members).bind read
  let entity (name : String) : Option Entity := field name Entity.ofJson?
  let optionalEntity (name : String) : Option (Option Entity) :=
    match Json.member? name members with
    | some json => readOption? Entity.ofJson? json
    | none => some none
  let args : Option (List Value) := field "args" fun
    | .arr items => Value.listOfJson? items
    | _ => none
  match type with
  | .playerConnect => return .playerConnect (← entity "player")
  | .playerDisconnect => return .playerDisconnect (← entity "player") (← field "reason" readString?)
  | .playerDamage =>
    return .playerDamage (← entity "victim") (← optionalEntity "attacker")
      (← field "health_damage" readUInt16?) (← field "armour_damage" readUInt16?)
      (← field "weapon" readUInt32?)
  | .playerDeath =>
    return .playerDeath (← entity "victim") (← optionalEntity "killer")
      (← field "weapon" readUInt32?)
  | .playerEnterVehicle =>
    return .playerEnterVehicle (← entity "player") (← entity "vehicle") (← field "seat" readUInt8?)
  | .playerLeaveVehicle =>
    return .playerLeaveVehicle (← entity "player") (← entity "vehicle") (← field "seat" readUInt8?)
  | .playerChangeVehicleSeat =>
    return .playerChangeVehicleSeat (← entity "player") (← entity "vehicle")
      (← field "old_seat" readUInt8?) (← field "new_seat" readUInt8?)
  | .consoleCommand =>
    return .consoleCommand (← field "name" readString?) (← field "args" (readList? readString?))
  | .colshapeEvent =>
    return .colshapeEvent (← entity "colshape") (← entity "entity") (← field "entered" readBool?)
  | .weaponDamage =>
    return .weaponDamage (← entity "source") (← entity "target") (← field "weapon" readUInt32?)
      (← field "damage" readUInt16?) (← field "offset" Vector3.ofJson?)
      (← field "body_part" readInt8?)
  | .explosion =>
    return .explosion (← entity "source") (← field "explosion_type" readInt8?)
      (← field "position" Vector3.ofJson?) (← field "fx" readUInt32?) (← optionalEntity "target")
  | .removeEntity => return .removeEntity (← entity "entity")
  | .resourceStart => return .resourceStart (← field "resource" readString?)
  | .resourceStop => return .resourceStop (← field "resource" readString?)
  | .localScriptEvent => return .localScriptEvent (← field "name" readString?) (← args)
  | .remoteScriptEvent =>
    return .remoteScriptEvent (← field "name" readString?) (← entity "player") (← args)
  | .tick => none

def ofJson? : Json → Option HostEvent
  | .str name => if name = EventType.tick.name then some .tick else none
  | .obj [(name, .null)] => if name = EventType.tick.name then some .tick else none
  | .obj [(name, .obj members)] => do ofPayload? (← EventType.ofName? name) members
  | _ => none

end ScriptHost.HostEvent
