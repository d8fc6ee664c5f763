import Mathlib.Algebra.Group.Nat.Defs
import ScriptHost.Number.Binary

/-!
# Exact conversions

A magnitude and its significand with the exponent of its unit say the same (`encode_decode`,
`decode_encode`), and a value of a format is rounded to itself, however it is scaled
(`roundScaled_exact`).  Every finite value of the 32-bit format is one of the 64-bit format
(`widen_isFinite`), so widening loses nothing (`narrow_widen`).
-/

namespace ScriptHost.Number

/-! ## Powers of two -/

theorem log2_mul_two_pow {n : Nat} (hn : n ≠ 0) (k : Nat) : (n * 2 ^ k).log2 = n.log2 + k := by
  have hpos : n * 2 ^ k ≠ 0 := Nat.mul_ne_zero hn (Nat.ne_of_gt (Nat.two_pow_pos k))
  rw [Nat.log2_eq_iff hpos]
  constructor
  · rw [Nat.pow_add]
    exact Nat.mul_le_mul_right _ (Nat.log2_self_le hn)
  · rw [show n.log2 + k + 1 = n.log2 + 1 + k by omega, Nat.pow_add]
    exact Nat.mul_lt_mul_of_pos_right Nat.lt_log2_self (Nat.two_pow_pos _)

/-- A quotient by a power of two has the exponent of the numerator, less the power. -/
theorem binaryExponent_two_pow {num : Nat} (hnum : num ≠ 0) (j : Nat) :
    binaryExponent num (2 ^ j) = (num.log2 : Int) - j := by
  have hle := Nat.log2_self_le hnum
  unfold binaryExponent
  rw [Nat.log2_two_pow]
  simp only [Nat.pow_eq]
  by_cases hj : j ≤ num.log2
  · have hest : ((num.log2 : Int) - j).toNat = num.log2 - j := by omega
    have hreached : 2 ^ j * 2 ^ (num.log2 - j) ≤ num := by
      rw [← Nat.pow_add, show j + (num.log2 - j) = num.log2 by omega]
      exact hle
    apply if_pos
    rw [if_pos (by omega), hest]
    exact hreached
  · have hest : (-((num.log2 : Int) - j)).toNat = j - num.log2 := by omega
    have hreached : 2 ^ j ≤ num * 2 ^ (j - num.log2) := by
      calc 2 ^ j = 2 ^ num.log2 * 2 ^ (j - num.log2) := by
            rw [← Nat.pow_add, show num.log2 + (j - num.log2) = j by omega]
        _ ≤ num * 2 ^ (j - num.log2) := Nat.mul_le_mul_right _ hle
    apply if_pos
    rw [if_neg (by omega), hest]
    exact hreached

theorem divideToEven_mul (quotient : Nat) {den : Nat} (hden : 0 < den) :
    divideToEven (quotient * den) den = quotient := by
  unfold divideToEven
  simp only [Nat.mul_mod_left, Nat.mul_div_cancel _ hden]
  rw [if_pos hden]

/-! ## Significands and units -/

namespace Format

/-- A significand of a format with the exponent of its unit: as small a unit as there is, or else no
leading zero. -/
structure Canonical (F : Format) (significand : Nat) (unit : Int) : Prop where
  minExponent_le : F.minExponent ≤ unit
  lt : significand < 2 ^ (F.fractionBits + 1)
  subnormal_or_normal : unit = F.minExponent ∨ 2 ^ F.fractionBits ≤ significand

/-- The magnitude of a canonical significand. -/
def encode (F : Format) (significand : Nat) (unit : Int) : Nat :=
  (unit - F.minExponent).toNat * 2 ^ F.fractionBits + significand

variable {F : Format}

theorem decode_canonical (F : Format) (magnitude : Nat) :
    F.Canonical (F.decode magnitude).1 (F.decode magnitude).2 := by
  have hmod : magnitude % 2 ^ F.fractionBits < 2 ^ F.fractionBits :=
    Nat.mod_lt _ (Nat.two_pow_pos _)
  have hpow : 2 ^ (F.fractionBits + 1) = 2 * 2 ^ F.fractionBits := by
    rw [Nat.pow_succ, Nat.mul_comm]
  unfold decode
  simp only [Nat.pow_eq]
  by_cases hbiased : magnitude / 2 ^ F.fractionBits = 0
  · rw [if_pos hbiased]
    have hlt := (Nat.div_eq_zero_iff_lt (Nat.two_pow_pos _)).mp hbiased
    exact ⟨Int.le_refl _, by rw [hpow]; omega, .inl rfl⟩
  · obtain ⟨b, hb⟩ := Nat.exists_eq_succ_of_ne_zero hbiased
    rw [if_neg hbiased, hb]
    exact ⟨by simp only []; omega, by simp only [hpow]; omega, .inr (Nat.le_add_right _ _)⟩

theorem encode_decode (F : Format) (magnitude : Nat) :
    F.encode (F.decode magnitude).1 (F.decode magnitude).2 = magnitude := by
  have hdiv := Nat.div_add_mod' magnitude (2 ^ F.fractionBits)
  unfold decode encode
  simp only [Nat.pow_eq]
  by_cases hbiased : magnitude / 2 ^ F.fractionBits = 0
  · rw [if_pos hbiased]
    simp
  · rw [if_neg hbiased]
    obtain ⟨b, hb⟩ := Nat.exists_eq_succ_of_ne_zero hbiased
    rw [hb, Nat.succ_mul] at hdiv
    have hunit : (F.minExponent + (((b + 1 : Nat) : Int) - 1) - F.minExponent).toNat = b := by
      omega
    simp only [hb, Nat.succ_eq_add_one, hunit]
    omega

theorem decode_encode {significand : Nat} {unit : Int} (h : F.Canonical significand unit) :
    F.decode (F.encode significand unit) = (significand, unit) := by
  obtain ⟨hmin, hlt, hnormal⟩ := h
  have hpos : 0 < 2 ^ F.fractionBits := Nat.two_pow_pos _
  rw [Nat.pow_succ] at hlt
  unfold decode encode
  simp only [Nat.pow_eq]
  by_cases hsmall : significand < 2 ^ F.fractionBits
  · have hunit : unit = F.minExponent := hnormal.resolve_right (by omega)
    rw [hunit]
    simp [Nat.div_eq_of_lt hsmall]
  · obtain ⟨fraction, rfl⟩ := Nat.exists_eq_add_of_le (Nat.not_lt.mp hsmall)
    have hfraction : fraction < 2 ^ F.fractionBits := by omega
    rw [show (unit - F.minExponent).toNat * 2 ^ F.fractionBits + (2 ^ F.fractionBits + fraction)
      = fraction + ((unit - F.minExponent).toNat + 1) * 2 ^ F.fractionBits by
        rw [Nat.succ_mul]; omega]
    rw [Nat.add_mul_div_right _ _ hpos, Nat.add_mul_mod_self_right, Nat.div_eq_of_lt hfraction,
      Nat.mod_eq_of_lt hfraction, if_neg (by omega)]
    congr 1
    omega

/-! ## Rounding what needs no rounding -/

/-- Where `num / 2 ^ j` is `significand * 2 ^ unit`, it is rounded to that. -/
theorem roundRatio_exact {num j significand : Nat} {unit : Int}
    (hcanonical : F.Canonical significand unit) (hpos : significand ≠ 0)
    (heq : num * 2 ^ (-unit).toNat = significand * 2 ^ (j + unit.toNat))
    (hfinite : F.encode significand unit ≤ F.infinity) :
    F.roundRatio num (2 ^ j) = F.encode significand unit := by
  have hnum : num ≠ 0 := by
    rintro rfl
    rw [Nat.zero_mul] at heq
    exact Nat.mul_ne_zero hpos (Nat.ne_of_gt (Nat.two_pow_pos _)) heq.symm
  have hlog : (num.log2 : Int) - j = significand.log2 + unit := by
    have h := congrArg Nat.log2 heq
    rw [log2_mul_two_pow hnum, log2_mul_two_pow hpos] at h
    omega
  have hunit : max (binaryExponent num (2 ^ j) - F.fractionBits) F.minExponent = unit := by
    have hmin := hcanonical.minExponent_le
    have hlt := (Nat.log2_lt hpos).mpr hcanonical.lt
    rw [binaryExponent_two_pow hnum, hlog]
    rcases hcanonical.subnormal_or_normal with hsub | hnormal
    · omega
    · have hle := (Nat.le_log2 hpos).mpr hnormal
      omega
  have hsignificand : (if 0 ≤ unit then divideToEven num (2 ^ j * 2 ^ unit.toNat)
      else divideToEven (num * 2 ^ (-unit).toNat) (2 ^ j)) = significand := by
    by_cases h : 0 ≤ unit
    · rw [show (-unit).toNat = 0 by omega, Nat.pow_zero, Nat.mul_one, Nat.pow_add] at heq
      rw [if_pos h, heq, divideToEven_mul _ (Nat.mul_pos (Nat.two_pow_pos _)
        (Nat.two_pow_pos _))]
    · rw [show unit.toNat = 0 by omega, Nat.add_zero] at heq
      rw [if_neg h, heq, divideToEven_mul _ (Nat.two_pow_pos _)]
  unfold roundRatio
  simp only [Nat.pow_eq, hunit]
  rw [if_neg hnum, hsignificand]
  exact Nat.min_eq_left hfinite

/-- A value of the format is rounded to itself, with whatever significand and exponent it is
given. -/
theorem roundScaled_exact {given significand : Nat} {exponent unit : Int}
    (hcanonical : F.Canonical significand unit) (hpos : significand ≠ 0)
    (heq : given * 2 ^ (exponent.toNat + (-unit).toNat)
      = significand * 2 ^ (unit.toNat + (-exponent).toNat))
    (hfinite : F.encode significand unit ≤ F.infinity) :
    F.roundScaled given exponent = F.encode significand unit := by
  unfold roundScaled
  simp only [Nat.pow_eq]
  by_cases h : 0 ≤ exponent
  · rw [if_pos h, show 1 = 2 ^ 0 from rfl]
    apply roundRatio_exact hcanonical hpos _ hfinite
    rw [Nat.mul_assoc, ← Nat.pow_add, heq, show (-exponent).toNat = 0 by omega, Nat.add_comm]
  · rw [if_neg h]
    apply roundRatio_exact hcanonical hpos _ hfinite
    rw [show exponent.toNat = 0 by omega, Nat.zero_add] at heq
    rw [heq, Nat.add_comm]

theorem roundScaled_zero (F : Format) (exponent : Int) : F.roundScaled 0 exponent = 0 := by
  unfold roundScaled roundRatio
  simp

end Format

/-! ## Signs and magnitudes -/

theorem Binary64.isNegative_ofMagnitude (negative : Bool) {magnitude : Nat}
    (h : magnitude < Format.double.signBit) :
    (Binary64.ofMagnitude negative magnitude).isNegative = negative ∧
      (Binary64.ofMagnitude negative magnitude).magnitude = magnitude := by
  have hsign : Format.double.signBit = 2 ^ 63 := rfl
  rw [hsign] at h
  unfold Binary64.isNegative Binary64.magnitude Binary64.ofMagnitude
  rw [hsign]
  cases negative with
  | true =>
    simp only [if_true, UInt64.toNat_ofNat']
    constructor
    · rw [decide_eq_true_eq]
      omega
    · omega
  | false =>
    simp only [Bool.false_eq_true, if_false, UInt64.toNat_ofNat']
    constructor
    · rw [decide_eq_false_iff_not]
      omega
    · omega

theorem Binary32.ofMagnitude_magnitude (x : Binary32) :
    Binary32.ofMagnitude x.isNegative x.magnitude = x := by
  have hsign : Format.single.signBit = 2 ^ 31 := rfl
  have hlt := x.bits.toNat_lt
  unfold Binary32.ofMagnitude Binary32.isNegative Binary32.magnitude
  rw [hsign]
  congr 1
  rw [← UInt32.toNat_inj, UInt32.toNat_ofNat']
  by_cases h : 2 ^ 31 ≤ x.bits.toNat
  · rw [if_pos (decide_eq_true h)]
    omega
  · rw [if_neg (by simpa using h)]
    omega

/-! ## Widening -/

namespace Format

theorem convert_finite {source : Format} (target : Format) {magnitude significand : Nat}
    {unit : Int} (hfinite : magnitude < source.infinity)
    (hdecode : source.decode magnitude = (significand, unit)) :
    source.convert target magnitude = target.roundScaled significand unit := by
  unfold convert
  rw [if_pos hfinite, hdecode]

/-- A positive significand of the 32-bit format, brought to the full length of the 64-bit format. -/
theorem Canonical.widened {significand : Nat} {unit : Int}
    (h : single.Canonical significand unit) (hpos : significand ≠ 0) :
    double.Canonical (significand * 2 ^ (52 - significand.log2))
      (unit - (52 - significand.log2 : Nat)) := by
  have hlog : significand.log2 < 24 := (Nat.log2_lt hpos).mpr h.lt
  have hfull : (significand * 2 ^ (52 - significand.log2)).log2 = 52 := by
    rw [log2_mul_two_pow hpos]
    omega
  have hne : significand * 2 ^ (52 - significand.log2) ≠ 0 :=
    Nat.mul_ne_zero hpos (Nat.ne_of_gt (Nat.two_pow_pos _))
  have hmin : (-149 : Int) ≤ unit := h.minExponent_le
  refine ⟨?_, (Nat.log2_lt hne).mp (by rw [hfull]; decide), .inr ?_⟩
  · change (-1074 : Int) ≤ _
    omega
  · exact (Nat.le_log2 hne).mp (Nat.le_of_eq hfull.symm)

/-- The 64-bit magnitude of a positive finite 32-bit magnitude. -/
theorem convert_single_double {magnitude : Nat} (hfinite : magnitude < single.infinity)
    (hpos : magnitude ≠ 0) :
    ∃ significand unit, single.decode magnitude = (significand, unit) ∧ significand ≠ 0 ∧
      single.convert double magnitude
        = double.encode (significand * 2 ^ (52 - significand.log2))
            (unit - (52 - significand.log2 : Nat)) ∧
      single.convert double magnitude < double.infinity := by
  rcases hdecode : single.decode magnitude with ⟨significand, unit⟩
  have hcanonical := decode_canonical single magnitude
  have hencode := encode_decode single magnitude
  rw [hdecode] at hcanonical hencode
  have hsingle : single.infinity = 255 * 2 ^ 23 := rfl
  have hdouble : double.infinity = 2047 * 2 ^ 52 := rfl
  have hmin : (-149 : Int) ≤ unit := hcanonical.minExponent_le
  have hunit : (unit + 149).toNat * 2 ^ 23 + significand = magnitude := hencode
  have hsignificand : significand ≠ 0 := by
    rintro rfl
    rcases hcanonical.subnormal_or_normal with hsub | hnormal
    · -- only zero has no significand
      change unit = -149 at hsub
      rw [hsub] at hunit
      omega
    · exact absurd hnormal (Nat.not_le.mpr (Nat.two_pow_pos _))
  have hwide := hcanonical.widened hsignificand
  have hbound : double.encode (significand * 2 ^ (52 - significand.log2))
      (unit - (52 - significand.log2 : Nat)) < double.infinity := by
    have hlt : significand * 2 ^ (52 - significand.log2) < 2 ^ 53 := hwide.lt
    have hlow : (-1074 : Int) ≤ unit - (52 - significand.log2 : Nat) := hwide.minExponent_le
    change (unit - (52 - significand.log2 : Nat) - (-1074)).toNat * 2 ^ 52
      + significand * 2 ^ (52 - significand.log2) < _
    have hhigh : (unit - (52 - significand.log2 : Nat) - (-1074)).toNat ≤ 1400 := by omega
    have hmul := Nat.mul_le_mul_right (2 ^ 52) hhigh
    omega
  have hconvert : single.convert double magnitude
      = double.encode (significand * 2 ^ (52 - significand.log2))
          (unit - (52 - significand.log2 : Nat)) := by
    rw [convert_finite double hfinite hdecode]
    apply roundScaled_exact hwide
      (Nat.mul_ne_zero hsignificand (Nat.ne_of_gt (Nat.two_pow_pos _))) _ (Nat.le_of_lt hbound)
    rw [Nat.mul_assoc, ← Nat.pow_add]
    congr 2
    omega
  exact ⟨significand, unit, rfl, hsignificand, hconvert, hconvert ▸ hbound⟩

theorem convert_zero (source target : Format) (h : 0 < source.infinity) :
    source.convert target 0 = 0 := by
  have hdecode : source.decode 0 = (0, source.minExponent) := by
    unfold decode
    simp
  rw [convert_finite target h hdecode]
  exact roundScaled_zero target _

/-- To the wider format and back. -/
theorem convert_convert {magnitude : Nat} (hfinite : magnitude < single.infinity) :
    single.convert double magnitude < double.infinity ∧
      double.convert single (single.convert double magnitude) = magnitude := by
  by_cases hpos : magnitude = 0
  · subst hpos
    rw [convert_zero single double (by decide), convert_zero double single (by decide)]
    exact ⟨by decide, rfl⟩
  · obtain ⟨significand, unit, hdecode, hsignificand, hconvert, hbound⟩ :=
      convert_single_double hfinite hpos
    have hcanonical := decode_canonical single magnitude
    have hencode := encode_decode single magnitude
    rw [hdecode] at hcanonical hencode
    refine ⟨hbound, ?_⟩
    have hdouble := decode_encode (hcanonical.widened hsignificand)
    rw [← hconvert] at hdouble
    change single.encode significand unit = magnitude at hencode
    rw [convert_finite single hbound hdouble]
    change single.roundScaled (significand * _) (unit - _) = magnitude
    rw [← hencode]
    apply roundScaled_exact hcanonical hsignificand _ (hencode ▸ Nat.le_of_lt hfinite)
    rw [Nat.mul_assoc, ← Nat.pow_add]
    congr 2
    omega

end Format

/-- A finite value stays finite in the wider format. -/
theorem widen_isFinite {x : Binary32} (h : x.isFinite) : x.widen.isFinite := by
  have hfinite : x.magnitude < Format.single.infinity := of_decide_eq_true h
  obtain ⟨hbound, -⟩ := Format.convert_convert hfinite
  have hsign : Format.double.infinity < Format.double.signBit := by decide
  obtain ⟨-, hmagnitude⟩ :=
    Binary64.isNegative_ofMagnitude x.isNegative (Nat.lt_trans hbound hsign)
  unfold Binary64.isFinite Binary32.widen
  rw [hmagnitude]
  exact decide_eq_true hbound

/-- Widening a finite value loses nothing. -/
theorem narrow_widen {x : Binary32} (h : x.isFinite) : x.widen.narrow = x := by
  have hfinite : x.magnitude < Format.single.infinity := of_decide_eq_true h
  obtain ⟨hbound, hconvert⟩ := Format.convert_convert hfinite
  have hsign : Format.double.infinity < Format.double.signBit := by decide
  obtain ⟨hnegative, hmagnitude⟩ :=
    Binary64.isNegative_ofMagnitude x.isNegative (Nat.lt_trans hbound hsign)
  unfold Binary64.narrow Binary32.widen
  rw [hnegative, hmagnitude, hconvert, x.ofMagnitude_magnitude]

end ScriptHost.Number
