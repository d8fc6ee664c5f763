import ScriptHost.Parameter
import ScriptHost.Value
import ScriptHost.Number.Display
import ScriptHost.Text.Quoted

/-!
# Call arguments

An argument handed to the interpreter is a scalar, passed by address, or an object, passed by
handle.  `Argument.fits` says which parameters it can fill: a scalar only those of its own type, a
null handle every object parameter, and an entity those of its kind and those for any object.
-/

namespace ScriptHost

open Number

/-- A scalar with its type. -/
inductive Scalar where
  | bool (value : Bool)
  | int8 (value : Int8)
  | uint8 (value : UInt8)
  | int16 (value : Int16)
  | uint16 (value : UInt16)
  | int32 (value : Int32)
  | uint32 (value : UInt32)
  | int64 (value : Int64)
  | uint64 (value : UInt64)
  | float (value : Binary32)
  | double (value : Binary64)
deriving DecidableEq, Repr

def Scalar.type : Scalar → ScalarType
  | bool _ => .bool
  | int8 _ => .int8
  | uint8 _ => .uint8
  | int16 _ => .int16
  | uint16 _ => .uint16
  | int32 _ => .int32
  | uint32 _ => .uint32
  | int64 _ => .int64
  | uint64 _ => .uint64
  | float _ => .float
  | double _ => .double

/-- An object that the interpreter made: an array that the host asked for, or anything else, told
apart by a number. -/
inductive ScriptObject where
  | array (declaration : String) (items : List Value)
  | opaqueObject (id : Int)
deriving Repr

/-- An object passed by handle. -/
inductive ObjectRef where
  | null
  | string (text : String)
  | entity (entity : Entity)
  | vector3 (vector : Vector3)
  | script (object : ScriptObject)
deriving Repr

namespace ObjectRef

/-- The entity, or a null handle when there is none. -/
def ofEntity? : Option Entity → ObjectRef
  | some e => entity e
  | none => null

/-- Whether the object can fill a parameter of a type. -/
def fits : ObjectRef → ParameterType → Bool
  | null, type => !type.isScalar
  | string _, .string => true
  | vector3 _, .vector3 => true
  | entity e, .entity kind => kind = .object || e.kind = kind
  | script _, .array _ => true
  | _, _ => false

end ObjectRef

/-- One argument of a call into a script. -/
inductive Argument where
  | scalar (value : Scalar)
  | object (object : ObjectRef)
deriving Repr

namespace Argument

def isScalar : Argument → Bool
  | scalar _ => true
  | object _ => false

/-- Whether the argument can fill a parameter of a type. -/
def fits : Argument → ParameterType → Bool
  | scalar value, type => type = .scalar value.type
  | object o, type => o.fits type

end Argument

/-! ## Diagnostic text -/

def Entity.diagnostic (entity : Entity) : String :=
  "Entity \x7b kind: " ++ entity.kind.name ++ ", id: " ++ toString entity.id.toNat ++ " \x7d"

def Vector3.diagnostic (v : Vector3) : String :=
  "Vector3 \x7b x: " ++ v.x.display ++ ", y: " ++ v.y.display ++ ", z: " ++ v.z.display ++ " \x7d"

/-- The value of a scalar without its type. -/
def Scalar.display : Scalar → String
  | bool b => if b then "true" else "false"
  | int8 n => toString n.toInt
  | uint8 n => toString n.toNat
  | int16 n => toString n.toInt
  | uint16 n => toString n.toNat
  | int32 n => toString n.toInt
  | uint32 n => toString n.toNat
  | int64 n => toString n.toInt
  | uint64 n => toString n.toNat
  | float x => x.display
  | double x => x.display

def Scalar.diagnostic (value : Scalar) : String :=
  value.type.name ++ "(" ++ value.display ++ ")"

def ObjectRef.diagnostic : ObjectRef → String
  | null => "Null"
  | string text => "String(" ++ Text.quoted text ++ ")"
  | entity e => "Entity(" ++ e.diagnostic ++ ")"
  | vector3 v => "Vector3(" ++ v.diagnostic ++ ")"
  | script _ => "Script(ScriptObject)"

def Argument.diagnostic : Argument → String
  | scalar value => "Primitive(" ++ value.diagnostic ++ ")"
  | object o => "Object(" ++ o.diagnostic ++ ")"

end ScriptHost
