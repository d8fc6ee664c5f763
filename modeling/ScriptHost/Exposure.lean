import ScriptHost.Interpreter
import ScriptHost.Listing

/-!
# Exposing declarations

What scripts can use is registered with the interpreter one declaration at a time, and listed as
soon as the interpreter has accepted it.  The first rejection ends the exposure.
-/

namespace ScriptHost

/-- The section of the listing that a function belongs to. -/
inductive FunctionSection where
  | functions
  | events
deriving DecidableEq, Repr

/-- One step of an exposure. -/
inductive ExposureStep where
  | callbackType (declaration : String)
  | function (declaration : String) (function : HostFunction) (listedIn : FunctionSection)
  /-- The exposure fails of itself. -/
  | failure (error : EngineError)
deriving DecidableEq, Repr

/-- An exposure under way: the machine and what is listed so far. -/
structure Exposing (σ : Type) where
  machine : Machine σ
  listing : Listing

namespace Exposing

variable {σ : Type}

/-- Logs a notice. -/
def log (e : Exposing σ) (notice : Notice) : Exposing σ :=
  { e with machine := e.machine.log notice }

/-- Carries out one step. -/
def step (registrar : Registrar σ) (e : Exposing σ) :
    ExposureStep → Except EngineError Unit × Exposing σ
  | .callbackType declaration =>
    let (result, engine) := registrar.registerCallbackType e.machine.engine declaration
    let e := { e with machine := { e.machine with engine } }
    match result with
    | .ok () => (.ok (), { e with listing := e.listing.addCallbackType declaration })
    | .error error => (.error error, e)
  | .function declaration function listedIn =>
    let (result, engine) := registrar.registerFunction e.machine.engine declaration function
    let e := { e with machine := { e.machine with engine } }
    match result with
    | .ok () =>
      let listing :=
        match listedIn with
        | .functions => e.listing.addFunction declaration
        | .events => e.listing.addEvent declaration
      (.ok (), { e with listing })
    | .error error => (.error error, e)
  | .failure error => (.error error, e)

/-- Carries out steps up to the first that fails. -/
def steps (registrar : Registrar σ) :
    List ExposureStep → Exposing σ → Except EngineError Unit × Exposing σ
  | [], e => (.ok (), e)
  | first :: rest, e =>
    match e.step registrar first with
    | (.error error, e) => (.error error, e)
    | (.ok (), e) => steps registrar rest e

end Exposing

end ScriptHost
