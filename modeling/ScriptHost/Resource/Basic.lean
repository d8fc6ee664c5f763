import ScriptHost.Call
import ScriptHost.Event.Registry
import ScriptHost.Package.Include

/-!
# Resources

A resource is one compiled script module with the context its functions run in.  Module and context
are made together by a start and given up together by a stop; what the scripts register meanwhile is
in the bindings.
-/

namespace ScriptHost

structure Resource (σ : Type) where
  name : String
  /-- The path of the file that compilation begins with. -/
  main : String
  package : Package σ
  registry : EventRegistry
  /-- Whether exception reports include the call stack. -/
  withStack : Bool
  phase : Phase := .uninitialized
  module : Option ScriptModule := none
  context : Option ContextHandle := none
  bindings : Bindings

/-- The declaration of the entry point that is used when the metadata names none. -/
def startDeclaration : String := "void Start()"

/-- The declaration of the function that is called before a resource stops. -/
def stopDeclaration : String := "void Stop()"

namespace Resource

variable {σ : Type}

/-- A resource that has not been started. -/
def new (name main : String) (package : Package σ) (registry : EventRegistry)
    (withStack : Bool) : Resource σ :=
  { name, main, package, registry, withStack, bindings := .new name }

def isRunning (r : Resource σ) : Bool :=
  r.phase = .running

/-- The machine together with the bindings. -/
def scene (r : Resource σ) (m : Machine σ) : Scene σ :=
  ⟨m, r.bindings⟩

/-- The resource with the bindings of a scene. -/
def adopt (r : Resource σ) (s : Scene σ) : Resource σ :=
  { r with bindings := s.bindings }

/-- The notice of an exception raised during an activity. -/
def exceptionNotice (r : Resource σ) (activity : String) (info : ScriptException) : Notice :=
  .exceptionRaised r.name activity (info.report r.withStack)

end Resource

end ScriptHost
