import ScriptHost.Number.Binary
import ScriptHost.Number.Shortest

/-!
# Diagnostic text of numbers

Diagnostics show a finite float by its shortest decimal: positional with at least one digit after
the point when the value is zero or lies from one ten-thousandth up to 10^16, and otherwise with an
exponent.
-/

namespace ScriptHost.Number

/-- Digits with a point: `0.05`, `12.5`, `300.0`. -/
def Decimal.positional (d : Decimal) : String :=
  if d.point ≤ 0 then
    "0." ++ String.ofList (List.replicate (-d.point).toNat '0' ++ d.digits)
  else
    let width := d.point.toNat
    let whole := d.digits.take width ++ List.replicate (width - d.digits.length) '0'
    let fraction := d.digits.drop width
    String.ofList whole ++ "." ++ (if fraction.isEmpty then "0" else String.ofList fraction)

/-- One digit, the others after a point, and an exponent: `1e16`, `1.5e-5`. -/
def Decimal.scientific (d : Decimal) : String :=
  let fraction := d.digits.drop 1
  String.ofList (d.digits.take 1)
    ++ (if fraction.isEmpty then "" else "." ++ String.ofList fraction)
    ++ "e" ++ toString (d.point - 1)

/-- The diagnostic text of a value of the format, given its sign and magnitude. -/
def Format.display (F : Format) (negative : Bool) (magnitude : Nat) : String :=
  if F.infinity < magnitude then "NaN"
  else
    let sign := if negative then "-" else ""
    if magnitude = F.infinity then sign ++ "inf"
    else
      let decimal := F.shortest magnitude
      let positional :=
        magnitude = 0 ||
          (F.roundDecimal 1 (-4) ≤ magnitude && magnitude < F.roundDecimal 1 16)
      sign ++ (if positional then decimal.positional else decimal.scientific)

def Binary64.display (x : Binary64) : String :=
  Format.double.display x.isNegative x.magnitude

def Binary32.display (x : Binary32) : String :=
  Format.single.display x.isNegative x.magnitude

end ScriptHost.Number
