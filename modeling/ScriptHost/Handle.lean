/-!
# Interpreter handles

References to things that the interpreter owns and counts references to.  Two handles are the same
exactly when they are equal.
-/

namespace ScriptHost

/-- A compiled script function. -/
structure FunctionHandle where
  label : String
  declaration : String
deriving DecidableEq, Repr

/-- A script array type that a module knows. -/
structure ArrayTypeHandle where
  declaration : String
deriving DecidableEq, Repr

/-- An execution context. -/
structure ContextHandle where
  id : Nat
deriving DecidableEq, Repr

/-- An open package file. -/
structure FileHandle where
  id : UInt32
deriving DecidableEq, Repr

end ScriptHost
