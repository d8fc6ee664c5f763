import ScriptHost.Entity

/-!
# Callback parameters

The types that a callback's parameters can have as the script sees them, and how a parameter list is
declared.  Scalars are passed by address and all else by handle, so the two are told apart in the
type.
-/

namespace ScriptHost

/-- Element types of the script arrays that the host can create. -/
inductive ArrayKind where
  | string
  | int
  | uint
  | any
deriving DecidableEq, Repr

namespace ArrayKind

/-- Every kind once, in the order in which a module is asked for them. -/
def all : List ArrayKind := [string, int, uint, any]

/-- The array type in a declaration. -/
def declaration : ArrayKind → String
  | string => "array<string>"
  | int => "array<int>"
  | uint => "array<uint>"
  | any => "array<any>"

/-- The name of the kind in messages and in data. -/
def name : ArrayKind → String
  | string => "String"
  | int => "Int"
  | uint => "UInt"
  | any => "Any"

end ArrayKind

/-- Scalar types. -/
inductive ScalarType where
  | bool
  | int8
  | uint8
  | int16
  | uint16
  | int32
  | uint32
  | int64
  | uint64
  | float
  | double
deriving DecidableEq, Repr

namespace ScalarType

/-- Every type once. -/
def all : List ScalarType :=
  [.bool, .int8, .uint8, .int16, .uint16, .int32, .uint32, .int64, .uint64, .float, .double]

/-- The type in a declaration. -/
def declaration : ScalarType → String
  | bool => "bool"
  | int8 => "int8"
  | uint8 => "uint8"
  | int16 => "int16"
  | uint16 => "uint16"
  | int32 => "int"
  | uint32 => "uint"
  | int64 => "int64"
  | uint64 => "uint64"
  | float => "float"
  | double => "double"

/-- The name of the type in messages and in data. -/
def name : ScalarType → String
  | bool => "Bool"
  | int8 => "Int8"
  | uint8 => "UInt8"
  | int16 => "Int16"
  | uint16 => "UInt16"
  | int32 => "Int32"
  | uint32 => "UInt32"
  | int64 => "Int64"
  | uint64 => "UInt64"
  | float => "Float"
  | double => "Double"

end ScalarType

/-- The type of a callback parameter. -/
inductive ParameterType where
  | scalar (type : ScalarType)
  | string
  | vector3
  | entity (kind : EntityKind)
  | array (kind : ArrayKind)
deriving DecidableEq, Repr

namespace ParameterType

/-- Whether arguments for the parameter are passed by address. -/
def isScalar : ParameterType → Bool
  | scalar _ => true
  | _ => false

/-- The type in a declaration. -/
def declaration : ParameterType → String
  | scalar type => type.declaration
  | string => "string"
  | vector3 => "Vector3"
  | entity kind => kind.scriptType ++ "@"
  | array kind => kind.declaration ++ "@"

/-- The name of the type in diagnostics. -/
def diagnostic : ParameterType → String
  | scalar type => type.name
  | string => "String"
  | vector3 => "Vector3"
  | entity kind => "Entity(" ++ kind.name ++ ")"
  | array kind => "Array(" ++ kind.name ++ ")"

end ParameterType

/-- A named callback parameter. -/
structure Parameter where
  type : ParameterType
  name : String
deriving DecidableEq, Repr

namespace Parameter

/-- The parameter in a declaration: its type, a space and its name. -/
def declaration (parameter : Parameter) : String :=
  parameter.type.declaration ++ " " ++ parameter.name

/-- The parameters in a declaration, between the parentheses. -/
def listDeclaration (parameters : List Parameter) : String :=
  String.intercalate ", " (parameters.map declaration)

end Parameter

/-- What a callback may return besides nothing. -/
inductive ReturnType where
  | bool
deriving DecidableEq, Repr

/-- The return type in a declaration. -/
def ReturnType.declaration : ReturnType → String
  | bool => "bool"

end ScriptHost
