/-!
# Time

Instants are nanoseconds on a clock whose origin does not matter, and durations are nanoseconds
too.  The clock may be set back; the time elapsed since a later instant is none.
-/

namespace ScriptHost

/-- A reading of the clock. -/
structure Instant where
  nanoseconds : Int
deriving DecidableEq, Repr

namespace Instant

/-- The instant `offset` nanoseconds later, or earlier when negative. -/
def shift (t : Instant) (offset : Int) : Instant :=
  ⟨t.nanoseconds + offset⟩

/-- The nanoseconds from `earlier` to `now`, none if the clock was set back past it. -/
def elapsedSince (now earlier : Instant) : Nat :=
  (now.nanoseconds - earlier.nanoseconds).toNat

end Instant

/-- A number of milliseconds as a duration. -/
def milliseconds (n : Nat) : Nat :=
  n * 1000000

end ScriptHost
