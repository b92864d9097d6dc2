import Mathlib.Algebra.Order.Ring.Nat
import SignalStub.Proofs.Number.Rounding

/-! # Which numerals are zero

    A decimal is rounded to a double, and the double is zero if the decimal is at most half of the
    smallest double, which is `2 ^ -1074`: of the two that are nearest to the half itself, zero is
    the even one. So a decimal may be zero although some of its digits are not.

    Up to where the exponents of doubles end, rounding keeps 53 binary digits and never leads to
    zero. There the exponent stays at its end, and the rounded number is the multiple of the smallest
    double. Decimals far outside the range are decided by their length alone, to the same effect.
-/

namespace SignalStub.Number.Binary64

/-! ## Ratios and powers of two -/

/-- A bound by powers of two is kept while their difference goes down. -/
theorem le_mul_two_pow {num den p q r s : Nat} (h : den * 2 ^ p ≤ num * 2 ^ q)
    (hdown : r + q ≤ p + s) : den * 2 ^ r ≤ num * 2 ^ s := by
  have hpow : 2 ^ (r + q) ≤ 2 ^ (p + s) := Nat.pow_le_pow_right (by decide) hdown
  have hscaled : den * 2 ^ r * 2 ^ q ≤ num * 2 ^ s * 2 ^ q :=
    calc den * 2 ^ r * 2 ^ q = den * 2 ^ (r + q) := by rw [Nat.mul_assoc, Nat.pow_add]
      _ ≤ den * 2 ^ (p + s) := Nat.mul_le_mul_left den hpow
      _ = den * 2 ^ p * 2 ^ s := by rw [Nat.mul_assoc, Nat.pow_add]
      _ ≤ num * 2 ^ q * 2 ^ s := Nat.mul_le_mul_right _ h
      _ = num * 2 ^ s * 2 ^ q := Nat.mul_right_comm num (2 ^ q) (2 ^ s)
  exact Nat.le_of_mul_le_mul_right hscaled (Nat.two_pow_pos q)

theorem scaleDown_eq (num den : Nat) (exponent : Int) :
    scaleDown num den exponent = (num * 2 ^ (-exponent).toNat, den * 2 ^ exponent.toNat) := by
  unfold scaleDown
  split
  next h =>
    have hzero : (-exponent).toNat = 0 := by omega
    rw [hzero, Nat.pow_zero, Nat.mul_one, Nat.shiftLeft_eq]
  next h =>
    have hzero : exponent.toNat = 0 := by omega
    rw [hzero, Nat.pow_zero, Nat.mul_one, Nat.shiftLeft_eq]

/-- The logarithm of a ratio is not above it. -/
theorem floorLog2_le {num : Nat} (hnum : num ≠ 0) (den : Nat) :
    den * 2 ^ (floorLog2 num den).toNat ≤ num * 2 ^ (-floorLog2 num den).toNat := by
  unfold floorLog2
  dsimp only
  rw [scaleDown_eq]
  dsimp only
  split
  next hguess => exact hguess
  next =>
    -- the next exponent below the guess is right, because both logarithms are
    have hlow : 2 ^ num.log2 ≤ num := Nat.log2_self_le hnum
    have hhigh : den ≤ 2 ^ (den.log2 + 1) := Nat.le_of_lt Nat.lt_log2_self
    have hboth : den * 2 ^ num.log2 ≤ num * 2 ^ (den.log2 + 1) := by
      rw [Nat.mul_comm num]
      exact Nat.mul_le_mul hhigh hlow
    exact le_mul_two_pow hboth (by omega)

/-! ## Rounding to zero -/

theorem roundHalfEven_eq_zero_iff (num : Nat) {den : Nat} (hden : 0 < den) :
    roundHalfEven num den = 0 ↔ 2 * num ≤ den := by
  have hsplit : den * (num / den) + num % den = num := Nat.div_add_mod num den
  have hrest : num % den < den := Nat.mod_lt num hden
  unfold roundHalfEven
  dsimp only
  constructor
  · intro hzero
    split at hzero
    next => cases hzero
    next hdown =>
      rw [hzero] at hsplit hdown
      have hcases : ¬ (den < 2 * (num % den) ∨ 2 * (num % den) = den ∧ 0 % 2 = 1) := by
        simpa using hdown
      omega
  · intro hhalf
    have hsmall : num < den := by omega
    rw [Nat.div_eq_of_lt hsmall, Nat.mod_eq_of_lt hsmall]
    refine if_neg ?_
    simp
    omega

/-- Half of the smallest double is `2 ^ -1075`. -/
def halfShift : Nat := 1075

section Ratio
variable {num den : Nat} (hnum : num ≠ 0) (hden : den ≠ 0) {exponent : Int}
  (hexponent : max (floorLog2 num den - 52) minExponent = exponent)
include hnum hden hexponent

/-- Before the end of the exponents nothing is small, neither when it is scaled nor by itself. -/
theorem not_small_of_exponent (hend : exponent ≠ minExponent) :
    ¬ 2 * (num * 2 ^ (-exponent).toNat) ≤ den * 2 ^ exponent.toNat ∧
      ¬ num * 2 ^ halfShift ≤ den := by
  have hlog := floorLog2_le hnum den
  generalize floorLog2 num den = log at hlog hexponent
  unfold minExponent at hexponent hend
  have hleast : den * 2 ^ exponent.toNat ≤ num * 2 ^ (-exponent).toNat :=
    le_mul_two_pow hlog (by omega)
  have hsmallest : den * 2 ^ 1 ≤ num * 2 ^ halfShift := by
    apply le_mul_two_pow hlog
    unfold halfShift
    omega
  have hscaled : 0 < num * 2 ^ (-exponent).toNat :=
    Nat.mul_pos (Nat.pos_of_ne_zero hnum) (Nat.two_pow_pos _)
  exact ⟨by omega, by omega⟩

/-- What is rounded is zero exactly if the ratio is at most half of the smallest double. -/
theorem roundHalfEven_scaled_eq_zero_iff :
    roundHalfEven (num * 2 ^ (-exponent).toNat) (den * 2 ^ exponent.toNat) = 0 ↔
      num * 2 ^ halfShift ≤ den := by
  have hscale : 0 < den * 2 ^ exponent.toNat :=
    Nat.mul_pos (Nat.pos_of_ne_zero hden) (Nat.two_pow_pos _)
  rw [roundHalfEven_eq_zero_iff _ hscale]
  by_cases hend : exponent = minExponent
  · have hshift : halfShift = (-exponent).toNat + 1 ∧ exponent.toNat = 0 := by
      unfold minExponent at hend
      unfold halfShift
      omega
    rw [hshift.1, hshift.2, Nat.pow_zero, Nat.mul_one, Nat.pow_succ, ← Nat.mul_assoc num]
    omega
  · obtain ⟨hscaled, hself⟩ := not_small_of_exponent hnum hden hexponent hend
    exact iff_of_false hscaled hself

end Ratio

/-- A ratio is rounded to zero exactly if it is at most half of the smallest double. -/
theorem isZero_ofRatio (negative : Bool) (num : Nat) {den : Nat} (hden : den ≠ 0) :
    (ofRatio negative num den).isZero = true ↔ num * 2 ^ halfShift ≤ den := by
  unfold ofRatio
  split
  next hzero =>
    simp only [hzero, Nat.zero_mul, Nat.zero_le, iff_true]
    rfl
  next hnum =>
    dsimp only
    rw [scaleDown_eq]
    dsimp only
    generalize hexponent : max (floorLog2 num den - 52) minExponent = exponent
    have hrounded := roundHalfEven_scaled_eq_zero_iff hnum hden hexponent
    have hlarge : maxExponent < exponent → ¬ num * 2 ^ halfShift ≤ den := by
      intro hmax
      have hend : exponent ≠ minExponent := by
        unfold maxExponent at hmax
        unfold minExponent
        omega
      exact (not_small_of_exponent hnum hden hexponent hend).2
    rw [← hrounded] at hlarge ⊢
    generalize roundHalfEven (num * 2 ^ (-exponent).toNat) (den * 2 ^ exponent.toNat) = rounded
      at hlarge
    -- neither a carry nor an infinity is a zero
    by_cases hcarry : rounded = 1 <<< 53
    · have hnonzero : rounded ≠ 0 := by
        rw [hcarry]
        decide
      rw [if_pos hcarry]
      dsimp only
      split
      · simp [isZero, hnonzero]
      · simp [isZero, hnonzero]
    · rw [if_neg hcarry]
      dsimp only
      split
      next hmax => simp [isZero, hlarge hmax]
      next => simp [isZero]

/-! ## Decimals -/

/-- A decimal is at most half of the smallest double. -/
def IsTiny (digits : Nat) (exponent : Int) : Prop :=
  digits * 10 ^ exponent.toNat * 2 ^ halfShift ≤ 10 ^ (-exponent).toNat

theorem isTiny_iff_of_nonneg (digits : Nat) {exponent : Int} (h : 0 ≤ exponent) :
    IsTiny digits exponent ↔ digits = 0 := by
  have hzero : (-exponent).toNat = 0 := by omega
  have hpow : 0 < 10 ^ exponent.toNat := Nat.pow_pos (by decide)
  have hunit : 2 ≤ 2 ^ halfShift := Nat.le_self_pow (show halfShift ≠ 0 by decide) 2
  unfold IsTiny
  rw [hzero, Nat.pow_zero]
  constructor
  · intro hsmall
    rcases Nat.eq_zero_or_pos digits with hdigits | hdigits
    · exact hdigits
    · have hproduct : 1 * 2 ≤ digits * 10 ^ exponent.toNat * 2 ^ halfShift :=
        Nat.mul_le_mul (Nat.mul_pos hdigits hpow) hunit
      omega
  · rintro rfl
    simp only [Nat.zero_mul, Nat.zero_le]

theorem isTiny_iff_of_neg (digits : Nat) {exponent : Int} (h : exponent < 0) :
    IsTiny digits exponent ↔ digits * 2 ^ halfShift ≤ 10 ^ (-exponent).toNat := by
  have hzero : exponent.toNat = 0 := by omega
  unfold IsTiny
  rw [hzero, Nat.pow_zero, Nat.mul_one]

/-- A number has at least as many digits as the power of ten below it. -/
theorem ten_pow_length_le {digits : Nat} (h : digits ≠ 0) :
    10 ^ ((Nat.toDigits 10 digits).length - 1) ≤ digits := by
  rcases Nat.eq_zero_or_pos ((Nat.toDigits 10 digits).length - 1) with hone | hmany
  · rw [hone]
    exact Nat.one_le_iff_ne_zero.mpr h
  · by_cases hsmall : digits < 10 ^ ((Nat.toDigits 10 digits).length - 1)
    · have hlength := (Nat.length_toDigits_le_iff (show 1 < 10 by decide) hmany).mpr hsmall
      omega
    · exact Nat.not_lt.mp hsmall

theorem lt_ten_pow_length (digits : Nat) : digits < 10 ^ (Nat.toDigits 10 digits).length := by
  have hlength : 0 < (Nat.toDigits 10 digits).length := List.length_pos_iff.mpr Nat.toDigits_ne_nil
  exact (Nat.length_toDigits_le_iff (by decide) hlength).mp (Nat.le_refl _)

/-- A decimal far above the range is not tiny. -/
theorem not_isTiny_of_long {digits : Nat} {exponent : Int} (hdigits : digits ≠ 0)
    (h : 0 < (Nat.toDigits 10 digits).length + exponent) : ¬ IsTiny digits exponent := by
  by_cases hexponent : 0 ≤ exponent
  · rwa [isTiny_iff_of_nonneg digits hexponent]
  · have hlow := ten_pow_length_le hdigits
    have hpow : 10 ^ (-exponent).toNat ≤ 10 ^ ((Nat.toDigits 10 digits).length - 1) :=
      Nat.pow_le_pow_right (by decide) (by omega)
    have hunit : 2 ≤ 2 ^ halfShift := Nat.le_self_pow (show halfShift ≠ 0 by decide) 2
    have hdouble : digits * 2 ≤ digits * 2 ^ halfShift := Nat.mul_le_mul_left digits hunit
    rw [isTiny_iff_of_neg digits (Int.not_le.mp hexponent)]
    omega

/-- A decimal far below the range is. -/
theorem isTiny_of_short {digits : Nat} {exponent : Int}
    (h : (Nat.toDigits 10 digits).length + exponent < -340) : IsTiny digits exponent := by
  have hunit : 2 ^ halfShift ≤ 10 ^ 340 := by decide +kernel
  rw [isTiny_iff_of_neg digits (by omega)]
  calc digits * 2 ^ halfShift ≤ 10 ^ (Nat.toDigits 10 digits).length * 10 ^ 340 :=
        Nat.mul_le_mul (Nat.le_of_lt (lt_ten_pow_length digits)) hunit
    _ = 10 ^ ((Nat.toDigits 10 digits).length + 340) := by rw [Nat.pow_add]
    _ ≤ 10 ^ (-exponent).toNat := Nat.pow_le_pow_right (by decide) (by omega)

/-- A decimal stands for a zero exactly if it is tiny. -/
theorem isZero_ofDecimal (negative : Bool) (digits : Nat) (exponent : Int) :
    (ofDecimal negative digits exponent).isZero = true ↔ IsTiny digits exponent := by
  unfold ofDecimal
  dsimp only
  split
  next hzero =>
    have htiny : IsTiny digits exponent := by
      simp only [IsTiny, hzero, Nat.zero_mul, Nat.zero_le]
    exact iff_of_true rfl htiny
  next hdigits =>
    split
    next hlarge => exact iff_of_false (by simp [isZero]) (not_isTiny_of_long hdigits (by omega))
    next =>
      split
      next hsmall => exact iff_of_true rfl (isTiny_of_short hsmall)
      next =>
        split
        next hpositive =>
          rw [isZero_ofRatio _ _ (by decide), IsTiny]
          have hzero : (-exponent).toNat = 0 := by omega
          rw [hzero]
          rfl
        next hnegative =>
          rw [isTiny_iff_of_neg digits (by omega)]
          exact isZero_ofRatio _ _ (Nat.pos_iff_ne_zero.mp (Nat.pow_pos (by decide)))

end SignalStub.Number.Binary64
