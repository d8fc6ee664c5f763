import ScriptHost.Number.Rounding

/-!
# Binary floating-point values

Values of the 32-bit and the 64-bit format, held as their encodings, so that equality, zero signs
and infinities are exact.  Widening is exact; narrowing, and reading an integer or a decimal,
round once.
-/

namespace ScriptHost.Number

/-- A value of the 64-bit format. -/
structure Binary64 where
  bits : UInt64
deriving DecidableEq, Repr, Inhabited

/-- A value of the 32-bit format. -/
structure Binary32 where
  bits : UInt32
deriving DecidableEq, Repr, Inhabited

namespace Binary64

/-- The value with the given sign and magnitude. -/
def ofMagnitude (negative : Bool) (magnitude : Nat) : Binary64 :=
  ⟨UInt64.ofNat (if negative then Format.double.signBit + magnitude else magnitude)⟩

def isNegative (x : Binary64) : Bool :=
  Format.double.signBit ≤ x.bits.toNat

/-- The encoding without its sign. -/
def magnitude (x : Binary64) : Nat :=
  x.bits.toNat % Format.double.signBit

def isFinite (x : Binary64) : Bool :=
  x.magnitude < Format.double.infinity

/-- The value nearest to an integer. -/
def ofInt (n : Int) : Binary64 :=
  ofMagnitude (n < 0) (Format.double.roundRatio n.natAbs 1)

/-- The value nearest to `± digits * 10 ^ exponent`. -/
def ofDecimal (negative : Bool) (digits : Nat) (exponent : Int) : Binary64 :=
  ofMagnitude negative (Format.double.roundDecimal digits exponent)

end Binary64

namespace Binary32

/-- The value with the given sign and magnitude. -/
def ofMagnitude (negative : Bool) (magnitude : Nat) : Binary32 :=
  ⟨UInt32.ofNat (if negative then Format.single.signBit + magnitude else magnitude)⟩

def isNegative (x : Binary32) : Bool :=
  Format.single.signBit ≤ x.bits.toNat

/-- The encoding without its sign. -/
def magnitude (x : Binary32) : Nat :=
  x.bits.toNat % Format.single.signBit

def isFinite (x : Binary32) : Bool :=
  x.magnitude < Format.single.infinity

/-- The value nearest to an integer. -/
def ofInt (n : Int) : Binary32 :=
  ofMagnitude (n < 0) (Format.single.roundRatio n.natAbs 1)

end Binary32

/-- Carries a magnitude from one format to another: finite values are rounded, infinity stays
infinity, and what is no number keeps the leading bits of its payload and is marked quiet. -/
def Format.convert (source target : Format) (magnitude : Nat) : Nat :=
  if magnitude < source.infinity then
    let (significand, exponent) := source.decode magnitude
    target.roundScaled significand exponent
  else if magnitude = source.infinity then target.infinity
  else
    let payload := magnitude - source.infinity
    let moved :=
      if source.fractionBits ≤ target.fractionBits then
        payload * Nat.pow 2 (target.fractionBits - source.fractionBits)
      else payload / Nat.pow 2 (source.fractionBits - target.fractionBits)
    let quiet := Nat.pow 2 (target.fractionBits - 1)
    target.infinity + (if moved < quiet then moved + quiet else moved)

/-- The same value in the wider format. -/
def Binary32.widen (x : Binary32) : Binary64 :=
  Binary64.ofMagnitude x.isNegative (Format.single.convert Format.double x.magnitude)

/-- The nearest value of the narrower format. -/
def Binary64.narrow (x : Binary64) : Binary32 :=
  Binary32.ofMagnitude x.isNegative (Format.double.convert Format.single x.magnitude)

end ScriptHost.Number
