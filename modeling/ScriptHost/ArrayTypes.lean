import ScriptHost.Interpreter

/-!
# Array types

The array types that a resource holds while it runs.  They are looked up in its module when it
starts, and one that the module does not know stays unresolved.  Where an array cannot be created
the script gets a null handle.
-/

namespace ScriptHost

structure ArrayTypes where
  string : Option ArrayTypeHandle := none
  int : Option ArrayTypeHandle := none
  uint : Option ArrayTypeHandle := none
  any : Option ArrayTypeHandle := none
deriving DecidableEq, Repr

namespace ArrayTypes

/-- No type is resolved. -/
def unresolved : ArrayTypes := {}

def get? (types : ArrayTypes) : ArrayKind → Option ArrayTypeHandle
  | .string => types.string
  | .int => types.int
  | .uint => types.uint
  | .any => types.any

/-- The types found in a module. -/
def ofModule (module : ScriptModule) : ArrayTypes where
  string := module.arrayType? ArrayKind.string.declaration
  int := module.arrayType? ArrayKind.int.declaration
  uint := module.arrayType? ArrayKind.uint.declaration
  any := module.arrayType? ArrayKind.any.declaration

/-- The types that are resolved, in the order of the kinds. -/
def held (types : ArrayTypes) : List ArrayTypeHandle :=
  ArrayKind.all.filterMap types.get?

def resolvedCount (types : ArrayTypes) : Nat :=
  types.held.length

/-- What is recorded about a kind of arrays in a module: a reference to its type, or a warning. -/
def resolution (module : ScriptModule) (kind : ArrayKind) : Entry :=
  match (ofModule module).get? kind with
  | some type => .typeRetained type
  | none => .logged (.typeNotFound kind.declaration module.name)

variable {σ : Type}

/-- Looks every type up in a module, takes a reference to each that is there and warns of the
others. -/
def resolve (module : ScriptModule) (m : Machine σ) : ArrayTypes × Machine σ :=
  (ofModule module, m.recordAll (ArrayKind.all.map (resolution module)))

/-- Gives back the reference to each type. -/
def release (types : ArrayTypes) (m : Machine σ) : Machine σ :=
  m.recordAll (types.held.map .typeReleased)

/-- Creates a script array, or gives a null handle if that is not possible. -/
def create (interpreter : Interpreter σ) (types : ArrayTypes) (kind : ArrayKind)
    (items : List Value) (m : Machine σ) : ObjectRef × Machine σ :=
  match types.get? kind with
  | none => (.null, m.log (.arrayTypeUnresolved kind))
  | some type =>
    match interpreter.createArray m.engine type items with
    | (.ok array, engine) => (array, { m with engine })
    | (.error cause, engine) => (.null, { m with engine }.log (.arrayNotCreated kind cause))

end ArrayTypes

end ScriptHost
