import ScriptHost.HostFunction.Basic
import ScriptHost.Wire.Loose
import ScriptHost.Wire.Value

/-!
# Data form of arguments

Arguments, parameters and the results of host functions as JSON.  A float is carried as a number
leaf whatever its value.  Reading is loose.
-/

namespace ScriptHost

/-! ## Parameters -/

def ArrayKind.ofText (name : String) : ArrayKind :=
  (all.find? fun k => k.name = name).getD .any

/-- A parameter type by its name, the kind of an entity or an array after a colon. -/
def ParameterType.ofText (name : String) : ParameterType :=
  match ScalarType.all.find? fun t => t.name = name with
  | some type => .scalar type
  | none =>
    match name.splitOn ":" with
    | ["Entity", kind] => .entity ((EntityKind.ofName? kind).getD .object)
    | ["Array", kind] => .array (.ofText kind)
    | ["Vector3"] => .vector3
    | _ => .string

/-- Parameters, each a type and a name. -/
def Parameter.listOfJson (json : Json) : List Parameter :=
  json.items.map fun p =>
    match p.texts with
    | [type, name] => ⟨.ofText type, name⟩
    | _ => ⟨.string, ""⟩

def Locality.ofJson (json : Json) : Locality :=
  if json.text? = some "Remote" then .remote else .here

/-! ## Arguments -/

def Scalar.toJson (scalar : Scalar) : Json :=
  let value : Json :=
    match scalar with
    | .bool b => .bool b
    | .int8 n => .int n.toInt
    | .uint8 n => .int n.toNat
    | .int16 n => .int n.toInt
    | .uint16 n => .int n.toNat
    | .int32 n => .int n.toInt
    | .uint32 n => .int n.toNat
    | .int64 n => .int n.toInt
    | .uint64 n => .int n.toNat
    | .float x => .real x.widen
    | .double x => .real x
  .obj [("prim", .arr [.str scalar.type.name, value])]

/-- A scalar of the type with a name. -/
def Scalar.ofJson (type : String) (json : Json) : Scalar :=
  match type with
  | "Bool" => .bool json.flag
  | "Int8" => .int8 (.ofInt json.asInt)
  | "UInt8" => .uint8 (.ofNat json.asNat)
  | "Int16" => .int16 (.ofInt json.asInt)
  | "UInt16" => .uint16 (.ofNat json.asNat)
  | "Int32" => .int32 (.ofInt json.asInt)
  | "UInt32" => .uint32 (.ofNat json.asNat)
  | "Int64" => .int64 (.ofInt json.asInt)
  | "UInt64" => .uint64 (.ofNat json.asNat)
  | "Float" => .float json.double.narrow
  | _ => .double json.double

/-- Three coordinates, or the origin. -/
def Vector3.ofItems (json : Json) : Vector3 :=
  match json.items.map fun x => x.double.narrow with
  | [x, y, z] => ⟨x, y, z⟩
  | _ => .zero

/-- Values in an array; nothing else is taken for them, but they may be missing. -/
def Value.listOfItems? : Json → Option (List Value)
  | .arr items => Value.listOfJson? items
  | _ => some []

def ObjectRef.toJson : ObjectRef → Json
  | .null => .str "null"
  | .string text => .obj [("str", .str text)]
  | .entity e => .obj [("entity", e.toJson)]
  | .vector3 v => .obj [("vec3", .arr [.real v.x.widen, .real v.y.widen, .real v.z.widen])]
  | .script (.array declaration items) =>
    .obj [("array", .obj [("decl", .str declaration), ("items", .arr (Value.listToJson items))])]
  | .script (.opaqueObject id) => .obj [("opaque", .int id)]

def ObjectRef.ofJson (json : Json) : ObjectRef :=
  if json.has "str" then .string ((json.get "str").text "")
  else if json.has "entity" then .ofEntity? (Entity.ofJson? (json.get "entity"))
  else if json.has "vec3" then .vector3 (.ofItems (json.get "vec3"))
  else if json.has "array" then
    let array := json.get "array"
    .script (.array ((array.get "decl").text "")
      ((Value.listOfItems? (array.get "items")).getD []))
  else if json.has "opaque" then .script (.opaqueObject (json.get "opaque").asInt)
  else .null

def Argument.toJson : Argument → Json
  | .scalar value => value.toJson
  | .object o => o.toJson

def Argument.ofJson (json : Json) : Argument :=
  match (json.get "prim").items with
  | [type, value] => .scalar (.ofJson (type.text "") value)
  | _ => .object (.ofJson json)

/-! ## Host calls -/

/-- User data by its name; it is that of the calling resource unless said otherwise. -/
def UserData.ofJson (json : Json) : UserData :=
  match json.text? with
  | some "none" => .absent
  | some "foreign" => .foreign
  | _ => .bindings

/-- An argument of a host function: a function or a number by name, or an argument as usual. -/
def HostArgument.ofJson (function? : String → Option FunctionHandle) (saved : String → UInt32)
    (json : Json) : HostArgument :=
  if json.has "fn" then
    match function? ((json.get "fn").text "") with
    | some handle => .function handle
    | none => .object .null
  else if json.has "uint" then .scalar (.uint32 (.ofNat (json.get "uint").asNat))
  else if json.has "var" then .scalar (.uint32 (saved ((json.get "var").text "")))
  else
    match Argument.ofJson json with
    | .scalar value => .scalar value
    | .object o => .object o

/-- A failure by its kind and its message. -/
def Json.failure (kind message : String) : Json :=
  .obj [("error", .str kind), ("message", .str message)]

def HostCallError.toJson (error : HostCallError) : Json :=
  match error with
  | .noActiveResource => .failure "NoActiveResource" error.message
  | .badArgument .. => .failure "BadArgument" error.message

def HostReturn.toJson : HostReturn → Json
  | .void => .str "void"
  | .scalar value => value.toJson
  | .object o => o.toJson

def HostResult.toJson : HostResult → Json
  | .ok value => value.toJson
  | .error error => error.toJson

end ScriptHost
