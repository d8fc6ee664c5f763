import ScriptHost.EventType
import ScriptHost.Value

/-!
# Host events

What the host tells its scripts, with the payload of each category.
-/

namespace ScriptHost

inductive HostEvent where
  | playerConnect (player : Entity)
  | playerDisconnect (player : Entity) (reason : String)
  /-- The attacker is missing when nobody caused the damage, as in a fall. -/
  | playerDamage (victim : Entity) (attacker : Option Entity) (healthDamage armourDamage : UInt16)
      (weapon : UInt32)
  | playerDeath (victim : Entity) (killer : Option Entity) (weapon : UInt32)
  | playerEnterVehicle (player vehicle : Entity) (seat : UInt8)
  | playerLeaveVehicle (player vehicle : Entity) (seat : UInt8)
  | playerChangeVehicleSeat (player vehicle : Entity) (oldSeat newSeat : UInt8)
  | consoleCommand (name : String) (args : List String)
  | colshapeEvent (colshape entity : Entity) (entered : Bool)
  | weaponDamage (source target : Entity) (weapon : UInt32) (damage : UInt16) (offset : Vector3)
      (bodyPart : Int8)
  | explosion (source : Entity) (explosionType : Int8) (position : Vector3) (fx : UInt32)
      (target : Option Entity)
  | removeEntity (entity : Entity)
  | resourceStart (resource : String)
  | resourceStop (resource : String)
  /-- A script on this side emitted a custom event. -/
  | localScriptEvent (name : String) (args : List Value)
  /-- A remote player sent a custom event. -/
  | remoteScriptEvent (name : String) (player : Entity) (args : List Value)
  | tick
deriving Repr

/-- The category of an event. -/
def HostEvent.type : HostEvent → EventType
  | playerConnect .. => .playerConnect
  | playerDisconnect .. => .playerDisconnect
  | playerDamage .. => .playerDamage
  | playerDeath .. => .playerDeath
  | playerEnterVehicle .. => .playerEnterVehicle
  | playerLeaveVehicle .. => .playerLeaveVehicle
  | playerChangeVehicleSeat .. => .playerChangeVehicleSeat
  | consoleCommand .. => .consoleCommand
  | colshapeEvent .. => .colshapeEvent
  | weaponDamage .. => .weaponDamage
  | explosion .. => .explosion
  | removeEntity .. => .removeEntity
  | resourceStart .. => .resourceStart
  | resourceStop .. => .resourceStop
  | localScriptEvent .. => .localScriptEvent
  | remoteScriptEvent .. => .remoteScriptEvent
  | tick => .tick

end ScriptHost
