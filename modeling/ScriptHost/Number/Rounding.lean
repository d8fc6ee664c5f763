/-!
# Rounding to a binary format

A binary interchange format is given by two widths.  A nonnegative rational is rounded to the
nearest value of the format, ties to the even neighbour, and the answer is the magnitude field of
the encoding: the biased exponent above the fraction, without the sign.  In that encoding the
magnitudes are ordered as the values are, and the first one past the largest finite value is
infinity, so a carry out of the significand needs no case of its own.
-/

namespace ScriptHost.Number

/-- The widths of a binary interchange format. -/
structure Format where
  fractionBits : Nat
  exponentBits : Nat
deriving DecidableEq, Repr

namespace Format

/-- The 32-bit format. -/
def single : Format := ⟨23, 8⟩

/-- The 64-bit format. -/
def double : Format := ⟨52, 11⟩

/-- The exponent of the unit in which subnormal values count. -/
def minExponent (F : Format) : Int :=
  2 - Nat.pow 2 (F.exponentBits - 1) - F.fractionBits

/-- The magnitude of infinity; every smaller magnitude is finite and every larger one is no
number. -/
def infinity (F : Format) : Nat :=
  (Nat.pow 2 F.exponentBits - 1) * Nat.pow 2 F.fractionBits

/-- The place of the sign in an encoding. -/
def signBit (F : Format) : Nat :=
  Nat.pow 2 (F.exponentBits + F.fractionBits)

/-- The value of a finite magnitude as a significand and the exponent of its unit. -/
def decode (F : Format) (magnitude : Nat) : Nat × Int :=
  let biased := magnitude / Nat.pow 2 F.fractionBits
  if biased = 0 then (magnitude, F.minExponent)
  else
    (Nat.pow 2 F.fractionBits + magnitude % Nat.pow 2 F.fractionBits,
      F.minExponent + (biased - 1))

end Format

/-- The quotient `num / den` rounded to the nearest natural number, a half to the even one. -/
def divideToEven (num den : Nat) : Nat :=
  let quotient := num / den
  let twice := 2 * (num % den)
  if twice < den then quotient
  else if twice = den then quotient + quotient % 2
  else quotient + 1

/-- The exponent `e` with `2 ^ e ≤ num / den < 2 ^ (e + 1)`, for positive arguments. -/
def binaryExponent (num den : Nat) : Int :=
  let estimate : Int := (Nat.log2 num : Int) - Nat.log2 den
  let reached :=
    if 0 ≤ estimate then den * Nat.pow 2 estimate.toNat ≤ num
    else den ≤ num * Nat.pow 2 (-estimate).toNat
  if reached then estimate else estimate - 1

/-- The magnitude of the value of `F` nearest to `num / den`. -/
def Format.roundRatio (F : Format) (num den : Nat) : Nat :=
  if num = 0 then 0
  else
    let unit := max (binaryExponent num den - F.fractionBits) F.minExponent
    let significand :=
      if 0 ≤ unit then divideToEven num (den * Nat.pow 2 unit.toNat)
      else divideToEven (num * Nat.pow 2 (-unit).toNat) den
    min ((unit - F.minExponent).toNat * Nat.pow 2 F.fractionBits + significand) F.infinity

/-- The magnitude of the value of `F` nearest to `significand * 2 ^ exponent`. -/
def Format.roundScaled (F : Format) (significand : Nat) (exponent : Int) : Nat :=
  if 0 ≤ exponent then F.roundRatio (significand * Nat.pow 2 exponent.toNat) 1
  else F.roundRatio significand (Nat.pow 2 (-exponent).toNat)

/-- The number of decimal digits of `n`, one for zero. -/
def decimalLength (n : Nat) : Nat :=
  (Nat.toDigits 10 n).length

/-- The magnitude of the value of `F` nearest to `digits * 10 ^ exponent`.  Decimals whose leading
digit is farther than 400 places from the point are past every finite value, or under half of the
least positive one, and need no arithmetic. -/
def Format.roundDecimal (F : Format) (digits : Nat) (exponent : Int) : Nat :=
  if digits = 0 then 0
  else
    let leading := exponent + decimalLength digits
    if 400 < leading then F.infinity
    else if leading < -400 then 0
    else if 0 ≤ exponent then F.roundRatio (digits * Nat.pow 10 exponent.toNat) 1
    else F.roundRatio digits (Nat.pow 10 (-exponent).toNat)

end ScriptHost.Number
