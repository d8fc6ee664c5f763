import ScriptHost.Number.Binary

/-!
# Host objects and positions

An entity refers to an object that the host owns, by its kind and its number among those of that
kind.
-/

namespace ScriptHost

/-- The kinds of host object. -/
inductive EntityKind where
  | player
  | vehicle
  | blip
  | colshape
  | object
deriving DecidableEq, Repr

namespace EntityKind

/-- Every kind once. -/
def all : List EntityKind := [player, vehicle, blip, colshape, object]

/-- The name of the kind in messages and in data. -/
def name : EntityKind → String
  | player => "Player"
  | vehicle => "Vehicle"
  | blip => "Blip"
  | colshape => "Colshape"
  | object => "Object"

def ofName? (name : String) : Option EntityKind :=
  all.find? fun kind => kind.name = name

/-- The type of a script's handle to an entity of this kind. -/
def scriptType : EntityKind → String
  | player => "IPlayer"
  | vehicle => "IVehicle"
  | blip => "IBlip"
  | colshape => "IColShape"
  | object => "IEntity"

end EntityKind

/-- A reference to a host object. -/
structure Entity where
  kind : EntityKind
  id : UInt16
deriving DecidableEq, Repr

/-- A position or an offset. -/
structure Vector3 where
  x : Number.Binary32
  y : Number.Binary32
  z : Number.Binary32
deriving DecidableEq, Repr, Inhabited

/-- The origin. -/
def Vector3.zero : Vector3 := ⟨⟨0⟩, ⟨0⟩, ⟨0⟩⟩

end ScriptHost
