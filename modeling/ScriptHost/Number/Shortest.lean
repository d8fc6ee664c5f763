import ScriptHost.Number.Rounding

/-!
# Shortest decimals

The shortest decimal that reads back as a given finite value.  The reals that round to
`m * 2 ^ q` form an interval, with its ends when `m` is even.  For one digit, two digits and so on
the two decimals next to the value on the grid of that length are tried; the first grid with a
decimal inside the interval wins, the nearer of two is taken, and of two equally near ones the
larger.
-/

namespace ScriptHost.Number

/-- A decimal: `digits`, most significant first, scaled so that it reads `0.digits * 10 ^ point`. -/
structure Decimal where
  digits : List Char
  point : Int
deriving DecidableEq, Repr

/-- A finite positive value `num / den` and the two ends of the interval that rounds to it, over
the same denominator. -/
structure Decimal.Interval where
  value : Nat
  low : Nat
  high : Nat
  den : Nat
  closed : Bool
deriving Repr

/-- Whether the fraction `num / den` lies in the interval. -/
def Decimal.Interval.holds (i : Interval) (num den : Nat) : Bool :=
  if i.closed then i.low * den ≤ num * i.den && num * i.den ≤ i.high * den
  else i.low * den < num * i.den && num * i.den < i.high * den

/-- The interval of a positive finite magnitude.  Below a power of two the neighbours are twice as
close as above it. -/
def Format.interval (F : Format) (magnitude : Nat) : Decimal.Interval :=
  let (significand, exponent) := F.decode magnitude
  let closer := significand = Nat.pow 2 F.fractionBits && F.minExponent < exponent
  let scale := Nat.pow 2 exponent.toNat
  { value := 4 * significand * scale
    low := (4 * significand - (if closer then 1 else 2)) * scale
    high := (4 * significand + 2) * scale
    den := 4 * Nat.pow 2 (-exponent).toNat
    closed := significand % 2 = 0 }

/-- The exponent `p` with `10 ^ (p - 1) ≤ num / den < 10 ^ p`, found from a first guess by at most
`fuel` steps. -/
def decimalPoint (num den : Nat) (guess : Int) : Nat → Int
  | 0 => guess
  | fuel + 1 =>
    let below := if 0 ≤ guess then num < den * Nat.pow 10 guess.toNat
      else num * Nat.pow 10 (-guess).toNat < den
    let floor := guess - 1
    let reached := if 0 ≤ floor then den * Nat.pow 10 floor.toNat ≤ num
      else den ≤ num * Nat.pow 10 (-floor).toNat
    if !below then decimalPoint num den (guess + 1) fuel
    else if !reached then decimalPoint num den (guess - 1) fuel
    else guess

/-- The decimal with `count` digits in the interval, if the grid of that length has one. -/
def Decimal.onGrid? (i : Interval) (point : Int) (count : Nat) : Option Decimal :=
  let unit := point - count
  let up := Nat.pow 10 unit.toNat
  let down := Nat.pow 10 (-unit).toNat
  let lower := i.value * down / (i.den * up)
  let upper := lower + 1
  let lowerFits := i.holds (lower * up) down
  let upperFits := i.holds (upper * up) down
  let upperNearer :=
    upper * up * i.den - i.value * down ≤ i.value * down - lower * up * i.den
  let chosen :=
    if lowerFits && (!upperFits || !upperNearer) then some lower
    else if upperFits then some upper
    else none
  chosen.map fun n =>
    let digits := Nat.toDigits 10 n
    { digits := (digits.reverse.dropWhile (· = '0')).reverse
      point := point + ((digits.length : Int) - count) }

/-- The shortest decimal of a finite magnitude; zero has the single digit zero. -/
def Format.shortest (F : Format) (magnitude : Nat) : Decimal :=
  if magnitude = 0 then ⟨['0'], 1⟩
  else
    let i := F.interval magnitude
    let guess := ((decimalLength i.value : Int) - decimalLength i.den)
    let point := decimalPoint i.value i.den guess 4
    let lengths := (List.range 20).map (· + 1)
    (lengths.findSome? (Decimal.onGrid? i point)).getD ⟨['0'], 1⟩

end ScriptHost.Number
