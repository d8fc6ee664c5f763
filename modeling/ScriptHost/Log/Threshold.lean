import ScriptHost.Notice

/-!
# Thresholds of log records
-/

namespace ScriptHost

/-- How important a level is; one is most important. -/
def Level.rank : Level → Nat
  | error => 1
  | warn => 2
  | info => 3
  | debug => 4
  | trace => 5

/-- Up to where records pass. -/
inductive Threshold where
  | off
  | upTo (level : Level)
deriving DecidableEq, Repr

namespace Threshold

/-- Whether records of a level pass. -/
def admits : Threshold → Level → Bool
  | off, _ => false
  | upTo last, level => level.rank ≤ last.rank

/-- The thresholds, in the order of their numbers. -/
def all : List (String × Threshold) :=
  [("off", off), ("error", upTo .error), ("warn", upTo .warn), ("info", upTo .info),
    ("debug", upTo .debug), ("trace", upTo .trace)]

/-- Reads a threshold: its name in any case, or its number. -/
def parse? (text : List Char) : Option Threshold :=
  let digits :=
    match text with
    | '+' :: rest => rest
    | cs => cs
  if !digits.isEmpty && digits.all Char.isDigit then
    let number := digits.foldl (fun n c => n * 10 + (c.toNat - '0'.toNat)) 0
    all[number]?.map (·.2)
  else (all.find? fun (name, _) => name.toList = text.map Char.toLower).map (·.2)

end Threshold

end ScriptHost
