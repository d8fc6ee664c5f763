/-!
# Categories of host events

Each category has a number that the host and the script side agree on and that never changes.  The
numbers are grouped: players below 100, the world from 100, resources from 200, script events from
300, the life of the host from 900.
-/

namespace ScriptHost

inductive EventType where
  | playerConnect
  | playerDisconnect
  | playerDamage
  | playerDeath
  | playerEnterVehicle
  | playerLeaveVehicle
  | playerChangeVehicleSeat
  | consoleCommand
  | colshapeEvent
  | weaponDamage
  | explosion
  | removeEntity
  | resourceStart
  | resourceStop
  | localScriptEvent
  | remoteScriptEvent
  | tick
deriving DecidableEq, Repr

namespace EventType

/-- Every category once, by ascending number. -/
def all : List EventType :=
  [playerConnect, playerDisconnect, playerDamage, playerDeath, playerEnterVehicle,
    playerLeaveVehicle, playerChangeVehicleSeat, consoleCommand, colshapeEvent, weaponDamage,
    explosion, removeEntity, resourceStart, resourceStop, localScriptEvent, remoteScriptEvent, tick]

/-- The number of the category. -/
def discriminant : EventType → UInt16
  | playerConnect => 1
  | playerDisconnect => 2
  | playerDamage => 3
  | playerDeath => 4
  | playerEnterVehicle => 5
  | playerLeaveVehicle => 6
  | playerChangeVehicleSeat => 7
  | consoleCommand => 100
  | colshapeEvent => 101
  | weaponDamage => 102
  | explosion => 103
  | removeEntity => 104
  | resourceStart => 200
  | resourceStop => 201
  | localScriptEvent => 300
  | remoteScriptEvent => 301
  | tick => 900

/-- The name that script declarations are made from. -/
def name : EventType → String
  | playerConnect => "PlayerConnect"
  | playerDisconnect => "PlayerDisconnect"
  | playerDamage => "PlayerDamage"
  | playerDeath => "PlayerDeath"
  | playerEnterVehicle => "PlayerEnterVehicle"
  | playerLeaveVehicle => "PlayerLeaveVehicle"
  | playerChangeVehicleSeat => "PlayerChangeVehicleSeat"
  | consoleCommand => "ConsoleCommand"
  | colshapeEvent => "ColshapeEvent"
  | weaponDamage => "WeaponDamage"
  | explosion => "Explosion"
  | removeEntity => "RemoveEntity"
  | resourceStart => "ResourceStart"
  | resourceStop => "ResourceStop"
  | localScriptEvent => "LocalScriptEvent"
  | remoteScriptEvent => "RemoteScriptEvent"
  | tick => "Tick"

/-- The category with a number, if there is one. -/
def ofDiscriminant? (id : UInt16) : Option EventType :=
  all.find? fun type => type.discriminant = id

/-- The category with a name, if there is one. -/
def ofName? (name : String) : Option EventType :=
  all.find? fun type => type.name = name

end EventType

end ScriptHost
