import ScriptHost.Proofs.Number.Exactness
import ScriptHost.Wire.Entity

/-!
# Fields read back

What was written of a leaf, of an entity or of a position is read as what it was, as far as the
floats in it are finite.
-/

namespace ScriptHost

namespace Wire

open Number

/-! ## Integers -/

theorem readNat?_natCast {bound n : Nat} (h : n < bound) : readNat? bound (.int n) = some n := by
  have hin : 0 ≤ (n : Int) ∧ (n : Int) < bound := by omega
  rw [readNat?, if_pos hin, Int.toNat_natCast]

theorem readInt?_int {half : Nat} {n : Int} (hlow : -(half : Int) ≤ n) (hhigh : n < half) :
    readInt? half (.int n) = some n :=
  if_pos ⟨hlow, hhigh⟩

@[simp] theorem readUInt8?_toNat (n : UInt8) : readUInt8? (.int n.toNat) = some n := by
  rw [readUInt8?, readNat?_natCast n.toNat_lt, Option.map_some, UInt8.ofNat_toNat]

@[simp] theorem readUInt16?_toNat (n : UInt16) : readUInt16? (.int n.toNat) = some n := by
  rw [readUInt16?, readNat?_natCast n.toNat_lt, Option.map_some, UInt16.ofNat_toNat]

@[simp] theorem readUInt32?_toNat (n : UInt32) : readUInt32? (.int n.toNat) = some n := by
  rw [readUInt32?, readNat?_natCast n.toNat_lt, Option.map_some, UInt32.ofNat_toNat]

@[simp] theorem readUInt64?_toNat (n : UInt64) : readUInt64? (.int n.toNat) = some n := by
  rw [readUInt64?, readNat?_natCast n.toNat_lt, Option.map_some, UInt64.ofNat_toNat]

@[simp] theorem readInt8?_toInt (n : Int8) : readInt8? (.int n.toInt) = some n := by
  have hread : readInt? (UInt8.size / 2) (.int n.toInt) = some n.toInt :=
    readInt?_int n.le_toInt n.toInt_lt
  rw [readInt8?, hread, Option.map_some, Int8.ofInt_toInt]

@[simp] theorem readInt64?_toInt (n : Int64) : readInt64? (.int n.toInt) = some n := by
  have hread : readInt? (UInt64.size / 2) (.int n.toInt) = some n.toInt :=
    readInt?_int n.le_toInt n.toInt_lt
  rw [readInt64?, hread, Option.map_some, Int64.ofInt_toInt]

/-! ## Floats -/

theorem readBinary32?_write {x : Binary32} (h : x.isFinite) :
    readBinary32? (writeBinary32 x) = some x := by
  rw [writeBinary32, writeBinary64, if_pos (widen_isFinite h), readBinary32?, narrow_widen h]

/-! ## Texts, lists and what may be missing -/

theorem readOption?_write {α : Type} {read : Json → Option α} {write : α → Json}
    (hread : ∀ a, read (write a) = some a) (hnull : ∀ a, write a ≠ .null) (value : Option α) :
    readOption? read (writeOption write value) = some value := by
  cases value with
  | none => rfl
  | some a =>
    unfold writeOption readOption?
    split
    · next h => exact absurd h (hnull a)
    · rw [hread, Option.map_some]

@[simp] theorem readList?_strings (texts : List String) :
    readList? readString? (.arr (texts.map .str)) = some texts := by
  unfold readList?
  induction texts with
  | nil => rfl
  | cons text rest ih =>
    simp only at ih
    simp [List.mapM_cons, readString?, ih]

end Wire

/-! ## Records -/

open Wire

@[simp] theorem EntityKind.ofJson?_toJson (kind : EntityKind) :
    EntityKind.ofJson? kind.toJson = some kind := by
  cases kind <;> decide

@[simp] theorem Entity.ofJson?_toJson (entity : Entity) :
    Entity.ofJson? entity.toJson = some entity := by
  simp [Entity.toJson, Entity.ofJson?, recordFields?, Json.member?]

theorem Entity.toJson_ne_null (entity : Entity) : entity.toJson ≠ .null := nofun

@[simp] theorem readOption?_entity (entity : Option Entity) :
    readOption? Entity.ofJson? (writeOption Entity.toJson entity) = some entity :=
  readOption?_write Entity.ofJson?_toJson Entity.toJson_ne_null entity

/-- Every coordinate is finite. -/
structure Vector3.Finite (v : Vector3) : Prop where
  x : v.x.isFinite = true
  y : v.y.isFinite = true
  z : v.z.isFinite = true

theorem Vector3.ofJson?_toJson {v : Vector3} (h : v.Finite) :
    Vector3.ofJson? v.toJson = some v := by
  simp [Vector3.toJson, Vector3.ofJson?, recordFields?, Json.member?,
    readBinary32?_write h.x, readBinary32?_write h.y, readBinary32?_write h.z]

end ScriptHost
