/-!
# Character ranges

A property of characters is tabulated as the ascending list of the ranges of code points that have
it.  The tables are those of Unicode 17.
-/

namespace ScriptHost.Text

/-- Inclusive ranges of code points. -/
abbrev Ranges := List (Nat × Nat)

/-- Whether a character lies in one of the ranges. -/
def Ranges.holds (ranges : Ranges) (c : Char) : Bool :=
  ranges.any fun (first, last) => first ≤ c.toNat && c.toNat ≤ last

end ScriptHost.Text
