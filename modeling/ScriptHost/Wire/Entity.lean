import ScriptHost.Entity
import ScriptHost.EventType
import ScriptHost.Wire.Field

/-!
# Data form of entities, positions and categories
-/

namespace ScriptHost

open Wire

def EntityKind.toJson (kind : EntityKind) : Json :=
  .str kind.name

def EntityKind.ofJson? (json : Json) : Option EntityKind := do
  EntityKind.ofName? (← readTag? json)

def EventType.ofJson? (json : Json) : Option EventType := do
  EventType.ofName? (← readTag? json)

def Entity.toJson (entity : Entity) : Json :=
  .obj [("kind", entity.kind.toJson), ("id", .int entity.id.toNat)]

def Entity.ofJson? (json : Json) : Option Entity := do
  match ← recordFields? ["kind", "id"] json with
  | [kind, id] => return ⟨← EntityKind.ofJson? kind, ← readUInt16? id⟩
  | _ => none

def Vector3.toJson (v : Vector3) : Json :=
  .obj [("x", writeBinary32 v.x), ("y", writeBinary32 v.y), ("z", writeBinary32 v.z)]

def Vector3.ofJson? (json : Json) : Option Vector3 := do
  match ← recordFields? ["x", "y", "z"] json with
  | [x, y, z] => return ⟨← readBinary32? x, ← readBinary32? y, ← readBinary32? z⟩
  | _ => none

end ScriptHost
