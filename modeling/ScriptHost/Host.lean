import ScriptHost.Config.Basic
import ScriptHost.Event.Builtin
import ScriptHost.HostFunction.Catalog
import ScriptHost.Listing.Write
import ScriptHost.Resource.Basic

/-!
# Hosts

A host owns an interpreter in which everything that scripts can use has been registered, and makes
the resources that compile against it.  `exposeAll` is the whole exposure; run with a registrar that
only accepts, it gives the listing without an interpreter.
-/

namespace ScriptHost

variable {σ : Type}

/-- Exposes the host functions and every event of a registry. -/
def exposeAll (registrar : Registrar σ) (registry : EventRegistry) (e : Exposing σ) :
    Except EngineError Unit × Exposing σ :=
  match Exposing.steps registrar hostCatalog e with
  | (.error error, e) => (.error error, e)
  | (.ok (), e) => registry.expose registrar e

/-- The declarations that a recorder has accepted. -/
structure RecordedDeclarations where
  callbackTypes : List String := []
  functions : List String := []
deriving DecidableEq, Repr

/-- A registrar that accepts every declaration and keeps it. -/
def recorder : Registrar RecordedDeclarations where
  registerCallbackType recorded declaration :=
    (.ok (), { recorded with callbackTypes := recorded.callbackTypes ++ [declaration] })
  registerFunction recorded declaration _ :=
    (.ok (), { recorded with functions := recorded.functions ++ [declaration] })

/-- The listing of everything builtin, and what is logged while it is collected. -/
def collectListing (namespaceName : String) : Except EngineError Listing × Journal :=
  let machine : Machine RecordedDeclarations := ⟨{}, ⟨0⟩, .empty⟩
  let (result, e) := exposeAll recorder Builtin.registry ⟨machine, .new namespaceName⟩
  (result.map fun () => e.listing, e.machine.journal)

/-- An interpreter with everything registered. -/
structure Host (σ : Type) where
  interpreter : Interpreter σ
  registry : EventRegistry
  config : Config
  listing : Listing

namespace Host

/-- Registers everything with an interpreter. -/
def expose (interpreter : Interpreter σ) (config : Config) (registry : EventRegistry)
    (m : Machine σ) : Except EngineError (Host σ) × Machine σ :=
  let start : Exposing σ := ⟨m.log .registeringHostFunctions, .new config.docsModule⟩
  match exposeAll interpreter.toRegistrar registry start with
  | (.error error, e) => (.error error, e.machine)
  | (.ok (), e) =>
    (.ok { interpreter, registry, config, listing := e.listing },
      e.machine.log (.exposedEvents registry.size))

/-- Installs a host: registers everything and, if the configuration asks for it, writes the listing
into a directory.  A listing that cannot be written is no failure. -/
def install {μ : Type → Type} [Monad μ] (files : FileAccess μ) (interpreter : Interpreter σ)
    (config : Config) (registry : EventRegistry) (docsDirectory time : String) (m : Machine σ) :
    μ (Except EngineError (Host σ) × Machine σ) := do
  match expose interpreter config registry m with
  | (.error error, m) => return (.error error, m)
  | (.ok host, m) =>
    if config.generateDocs then
      match ← host.listing.writeTo files docsDirectory time with
      | (.ok _, notices) => return (.ok host, m.logAll notices)
      | (.error fault, notices) =>
        return (.ok host, (m.logAll notices).log (.docsNotWritten docsDirectory fault.message))
    else return (.ok host, m)

/-- Makes a resource of the host. -/
def createResource (host : Host σ) (name main : String) (package : Package σ) (m : Machine σ) :
    Resource σ × Machine σ :=
  (.new name main package host.registry host.config.debug, m.log (.creatingResource name))

end Host

end ScriptHost
