import SignalStub.Proofs.Number.Integer

/-! # Whole numbers as doubles

    A whole number below `2 ^ 53` is a double. A larger one is rounded to 53 binary digits, so it
    moves to the nearest multiple of a power of two, and of two such multiples to the one with the
    even quotient. Rounding never leads below the power of two that the number started from.

    What is made of such a double as an unsigned 64-bit number is the multiple itself, cut to the
    range, because no digits are left behind the point.
-/

namespace SignalStub.Number.Binary64

/-! ## Rounding a ratio -/

/-- Rounding moves a ratio by half a unit at most. -/
theorem roundHalfEven_near (num : Nat) {den : Nat} (hden : 0 < den) :
    2 * num ≤ 2 * (den * roundHalfEven num den) + den ∧
      2 * (den * roundHalfEven num den) ≤ 2 * num + den := by
  have hsplit : den * (num / den) + num % den = num := Nat.div_add_mod num den
  have hrest : num % den < den := Nat.mod_lt num hden
  have hsucc : den * (num / den + 1) = den * (num / den) + den := Nat.mul_succ den (num / den)
  unfold roundHalfEven
  dsimp only
  split
  next hup =>
    have hhalf : den ≤ 2 * (num % den) := by
      have hcases : den < 2 * (num % den) ∨ 2 * (num % den) = den ∧ num / den % 2 = 1 := by
        simpa using hup
      omega
    rw [hsucc]
    omega
  next hdown =>
    have hhalf : 2 * (num % den) ≤ den := by
      have hcases : ¬ (den < 2 * (num % den) ∨ 2 * (num % den) = den ∧ num / den % 2 = 1) := by
        simpa using hdown
      omega
    omega

theorem div_le_roundHalfEven (num den : Nat) : num / den ≤ roundHalfEven num den := by
  unfold roundHalfEven
  dsimp only
  split
  next => exact Nat.le_succ _
  next => exact Nat.le_refl _

/-! ## Rounding a whole number -/

theorem scaleDown_whole (n shift : Nat) : scaleDown n 1 shift = (n, 1 <<< shift) := by
  unfold scaleDown
  rw [if_pos (Int.natCast_nonneg shift), Int.toNat_natCast]

theorem floorLog2_whole {n : Nat} (hn : n ≠ 0) : floorLog2 n 1 = n.log2 := by
  have hguess : ((n.log2 : Int) - (Nat.log2 1 : Nat)) = n.log2 := by
    have hone : Nat.log2 1 = 0 := by decide
    rw [hone]
    omega
  have hle : 1 <<< n.log2 ≤ n := by
    rw [Nat.one_shiftLeft]
    exact Nat.log2_self_le hn
  unfold floorLog2
  rw [hguess]
  dsimp only
  rw [scaleDown_whole]
  exact if_pos hle

/-- A whole number of more than 52 binary digits is infinite, which takes more than a thousand of
    them, or it is the nearest multiple of a power of two. -/
theorem ofRatio_whole (negative : Bool) {n : Nat} (hn : 52 ≤ n.log2) :
    (1023 ≤ n.log2 ∧ ofRatio negative n 1 = .infinite negative) ∨
      ∃ mantissa exponent : Nat, ofRatio negative n 1 = .finite negative mantissa exponent ∧
        mantissa <<< exponent = roundHalfEven n (1 <<< (n.log2 - 52)) <<< (n.log2 - 52) := by
  have hpositive : n ≠ 0 := by
    rintro rfl
    exact absurd hn (by decide)
  have hexponent : max ((n.log2 : Int) - 52) minExponent = (n.log2 - 52 : Nat) := by
    unfold minExponent
    omega
  unfold ofRatio
  rw [if_neg hpositive, floorLog2_whole hpositive]
  dsimp only
  rw [hexponent, scaleDown_whole]
  dsimp only
  generalize roundHalfEven n (1 <<< (n.log2 - 52)) = rounded
  by_cases hcarry : rounded = 1 <<< 53
  -- a carry moves one binary digit from the mantissa to the exponent
  · have hsame : (1 <<< 52) <<< (n.log2 - 52 + 1) = rounded <<< (n.log2 - 52) := by
      rw [hcarry, Nat.shiftLeft_eq, Nat.shiftLeft_eq, Nat.pow_succ]
      omega
    rw [if_pos hcarry]
    dsimp only
    by_cases hlarge : maxExponent < ((n.log2 - 52 : Nat) : Int) + 1
    · unfold maxExponent at hlarge
      exact .inl ⟨by omega, if_pos hlarge⟩
    · exact .inr ⟨1 <<< 52, n.log2 - 52 + 1, if_neg hlarge, hsame⟩
  · rw [if_neg hcarry]
    dsimp only
    by_cases hlarge : maxExponent < ((n.log2 - 52 : Nat) : Int)
    · unfold maxExponent at hlarge
      exact .inl ⟨by omega, if_pos hlarge⟩
    · exact .inr ⟨rounded, n.log2 - 52, if_neg hlarge, rfl⟩

/-! ## Decimals -/

/-- What is rounded keeps its sign. -/
theorem ofRatio_cases (negative : Bool) (num den : Nat) :
    ofRatio negative num den = .infinite negative ∨
      ∃ mantissa exponent, ofRatio negative num den = .finite negative mantissa exponent := by
  unfold ofRatio
  split
  next => exact .inr ⟨_, _, rfl⟩
  next =>
    dsimp only
    -- with a carry and without one
    split
    next =>
      dsimp only
      split
      next => exact .inl rfl
      next => exact .inr ⟨_, _, rfl⟩
    next =>
      dsimp only
      split
      next => exact .inl rfl
      next => exact .inr ⟨_, _, rfl⟩

theorem ofDecimal_cases (negative : Bool) (digits : Nat) (exponent : Int) :
    ofDecimal negative digits exponent = .infinite negative ∨
      ∃ mantissa exponent', ofDecimal negative digits exponent =
        .finite negative mantissa exponent' := by
  unfold ofDecimal
  dsimp only
  -- no digits, too many, too few, and the two ways to write the ratio
  split
  next => exact .inr ⟨_, _, rfl⟩
  next =>
    split
    next => exact .inl rfl
    next =>
      split
      next => exact .inr ⟨_, _, rfl⟩
      next =>
        split
        next => exact ofRatio_cases _ _ _
        next => exact ofRatio_cases _ _ _

/-- A whole number of 320 digits at most is rounded as it is, and a longer one is infinite. -/
theorem ofDecimal_whole {n : Nat} (hn : n ≠ 0) :
    (320 < (Nat.toDigits 10 n).length ∧ ofDecimal false n 0 = .infinite false) ∨
      ofDecimal false n 0 = ofRatio false n 1 := by
  unfold ofDecimal
  dsimp only
  rw [if_neg hn]
  by_cases hlarge : 320 < ((Nat.toDigits 10 n).length : Int) + 0
  · exact .inl ⟨by omega, if_pos hlarge⟩
  · have hsmall : ¬ ((Nat.toDigits 10 n).length : Int) + 0 < -340 := by omega
    have hsame : n * Nat.pow 10 (Int.toNat 0) = n := Nat.mul_one n
    rw [if_neg hlarge, if_neg hsmall, if_pos (Int.le_refl 0), hsame]
    exact .inr rfl

/-! ## Back to whole numbers -/

/-- The largest unsigned 64-bit number. -/
def maxUnsigned64 : Nat := 18446744073709551615

theorem toUnsigned64_finite (mantissa exponent : Nat) :
    (Binary64.finite false mantissa exponent).toUnsigned64 =
      min (mantissa <<< exponent) maxUnsigned64 := by
  unfold toUnsigned64
  dsimp only
  rw [if_pos (Int.natCast_nonneg exponent), Int.toNat_natCast]
  rfl

/-- What is negative becomes zero, whatever it is. -/
theorem toUnsigned64_negative (digits : Nat) (exponent : Int) :
    (ofDecimal true digits exponent).toUnsigned64 = 0 := by
  rcases ofDecimal_cases true digits exponent with hinfinite | ⟨mantissa, exponent', hfinite⟩
  · rw [hinfinite]
    rfl
  · rw [hfinite]
    rfl

/-- A whole number outside the signed 64-bit range. -/
theorem le_log2_of_wide {n : Nat} (hn : 9223372036854775808 ≤ n) : 63 ≤ n.log2 :=
  (Nat.le_log2 (by omega)).mpr hn

/-- Rounding keeps the leading binary digits at or above the power of two that they begin with. -/
theorem le_roundHalfEven_leading {n : Nat} (hn : 52 ≤ n.log2) :
    4503599627370496 ≤ roundHalfEven n (1 <<< (n.log2 - 52)) := by
  generalize hshift : n.log2 - 52 = shift
  have hlog : n.log2 = 52 + shift := by omega
  have hnonzero : n ≠ 0 := by
    rintro rfl
    exact absurd hn (by decide)
  have hfloor : 4503599627370496 * 1 <<< shift ≤ n := by
    have hself := Nat.log2_self_le hnonzero
    rwa [hlog, Nat.pow_add, ← Nat.one_shiftLeft shift] at hself
  have hpositive : 0 < 1 <<< shift := by
    rw [Nat.one_shiftLeft]
    exact Nat.two_pow_pos shift
  have hquotient : 4503599627370496 ≤ n / 1 <<< shift :=
    (Nat.le_div_iff_mul_le hpositive).mpr hfloor
  exact Nat.le_trans hquotient (div_le_roundHalfEven n (1 <<< shift))

/-- A number outside the signed range stays as large under rounding. -/
theorem le_toUnsigned64_of_wide {n : Nat} (hn : 9223372036854775808 ≤ n) :
    9223372036854775808 ≤ (ofDecimal false n 0).toUnsigned64 := by
  have hinfinite : 9223372036854775808 ≤ (Binary64.infinite false).toUnsigned64 := by decide
  have hlog := le_log2_of_wide hn
  rcases ofDecimal_whole (show n ≠ 0 by omega) with ⟨-, hlarge⟩ | hratio
  · rw [hlarge]
    exact hinfinite
  · rw [hratio]
    rcases ofRatio_whole false (show 52 ≤ n.log2 by omega) with
      ⟨-, hlarge⟩ | ⟨mantissa, exponent, hfinite, hvalue⟩
    · rw [hlarge]
      exact hinfinite
    · rw [hfinite, toUnsigned64_finite, hvalue]
      have hrounded := le_roundHalfEven_leading (show 52 ≤ n.log2 by omega)
      have hunit : 2 ^ 11 ≤ 2 ^ (n.log2 - 52) :=
        Nat.pow_le_pow_right (show 0 < 2 by decide) (show 11 ≤ n.log2 - 52 by omega)
      have hproduct : 4503599627370496 * 2048 ≤
          roundHalfEven n (1 <<< (n.log2 - 52)) <<< (n.log2 - 52) := by
        rw [Nat.shiftLeft_eq]
        exact Nat.mul_le_mul hrounded hunit
      exact Nat.le_min.mpr ⟨hproduct, by decide⟩

/-- A number between the signed and the unsigned 64-bit range goes to the nearest multiple of
    2048. -/
theorem toUnsigned64_of_wide {n : Nat} (hlow : 9223372036854775808 ≤ n) (hhigh : n ≤ maxUnsigned64) :
    (ofDecimal false n 0).toUnsigned64 = min (2048 * roundHalfEven n 2048) maxUnsigned64 := by
  have hlog : n.log2 = 63 := by
    have hlow' := le_log2_of_wide hlow
    have hhigh' : n.log2 < 64 := (Nat.log2_lt (by omega)).mpr (Nat.lt_succ_of_le hhigh)
    omega
  have hshort : (Nat.toDigits 10 n).length ≤ 20 := by
    rw [Nat.length_toDigits_le_iff (show 1 < 10 by decide) (show 0 < 20 by decide)]
    exact Nat.lt_of_le_of_lt hhigh (by decide)
  rcases ofDecimal_whole (show n ≠ 0 by omega) with ⟨hlarge, -⟩ | hratio
  · omega
  · rcases ofRatio_whole false (show 52 ≤ n.log2 by omega) with
      ⟨hlarge, -⟩ | ⟨mantissa, exponent, hfinite, hvalue⟩
    · omega
    · rw [hlog] at hvalue
      have hmultiple : mantissa <<< exponent = 2048 * roundHalfEven n 2048 := by
        rw [hvalue, Nat.shiftLeft_eq, Nat.mul_comm]
        rfl
      rw [hratio, hfinite, toUnsigned64_finite, hmultiple]

end SignalStub.Number.Binary64
