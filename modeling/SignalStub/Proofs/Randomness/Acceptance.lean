import SignalStub.Randomness.Draw

/-! # Accepted words

    The size of a range is kept in a word, which is too small for the range of all words alone: that
    range has size zero and is treated apart. Counted in natural numbers it needs no treatment of its
    own, and one rule holds for all ranges. The product of a word and the width of the range is
    divided by the number of all words. The rest says whether the word is accepted, and the quotient
    is the place in the range that the word stands for.

    A place is smaller than the width, so adding it to the lower end never leaves the range.

    A draw gives the element of the first accepted word. It takes this word and the rejected ones
    before it, and no other.
-/

namespace SignalStub.Randomness

namespace DrawRange

/-! ## The rule in natural numbers -/

/-- The number of elements of a range, which may be the number of all words. -/
def width (range : DrawRange) : Nat :=
  range.hi.toNat - range.lo.toNat + 1

/-- A value lies in a range. -/
def Contains (range : DrawRange) (value : UInt32) : Prop :=
  range.lo ≤ value ∧ value ≤ range.hi

/-- The place in the range that a word stands for. -/
def place (range : DrawRange) (word : UInt32) : Nat :=
  word.toNat * range.width / UInt32.size

/-- The rest of the product is small enough: every place keeps the same number of words. -/
def Accepts (range : DrawRange) (word : UInt32) : Prop :=
  word.toNat * range.width % UInt32.size < range.width <<< leadingZeros range.size

/-- The range of all words. -/
def allWords : DrawRange := ⟨0, 4294967295⟩

variable {range : DrawRange}

theorem place_lt_width (range : DrawRange) (word : UInt32) : range.place word < range.width := by
  have hpositive : 0 < range.width := Nat.succ_pos _
  apply Nat.div_lt_of_lt_mul
  exact Nat.mul_lt_mul_of_pos_right word.toNat_lt hpositive

theorem width_le (range : DrawRange) : range.width ≤ UInt32.size := by
  have hhi := range.hi.toNat_lt
  unfold width
  simp only [UInt32.size]
  omega

/-! ## Sizes -/

section Nonempty
variable (hrange : range.lo ≤ range.hi)
include hrange

/-- The size is the width, except that the width of all words is no word. -/
theorem toNat_size : range.size.toNat = range.width % UInt32.size := by
  unfold size width
  rw [UInt32.toNat_add, UInt32.toNat_sub_of_le _ _ hrange]
  rfl

theorem eq_allWords_of_size (hsize : range.size = 0) : range = allWords := by
  have hlo := range.lo.toNat_lt
  have hhi := range.hi.toNat_lt
  have hle : range.lo.toNat ≤ range.hi.toNat := hrange
  have hwidth := toNat_size hrange
  rw [hsize] at hwidth
  unfold width at hwidth
  simp only [UInt32.size, UInt32.toNat_zero] at hwidth
  have hends : range.lo.toNat = 0 ∧ range.hi.toNat = 4294967295 := by omega
  obtain ⟨lo, hi⟩ := range
  obtain rfl : lo = 0 := UInt32.toNat_inj.mp hends.1
  obtain rfl : hi = 4294967295 := UInt32.toNat_inj.mp hends.2
  rfl

theorem toNat_size_of_ne (hsize : range.size ≠ 0) : range.size.toNat = range.width := by
  have hwidth := toNat_size hrange
  have hle := width_le range
  have hpositive : range.size.toNat ≠ 0 := fun hzero => hsize (UInt32.toNat_inj.mp hzero)
  simp only [UInt32.size] at hwidth hle
  omega

/-- Shifted by its leading zeros, a width is at least half of the number of all words. -/
theorem shifted_width_bounds (hsize : range.size ≠ 0) :
    UInt32.size / 2 ≤ range.width <<< leadingZeros range.size ∧
      range.width <<< leadingZeros range.size < UInt32.size := by
  have hword := range.size.toNat_lt
  have hwidth := toNat_size_of_ne hrange hsize
  have hpositive : range.size.toNat ≠ 0 := fun hzero => hsize (UInt32.toNat_inj.mp hzero)
  have hlog : range.size.toNat.log2 < 32 := (Nat.log2_lt hpositive).mpr hword
  have hsum : range.size.toNat.log2 + leadingZeros range.size = 31 := by
    unfold leadingZeros
    omega
  rw [← hwidth, Nat.shiftLeft_eq]
  constructor
  · calc UInt32.size / 2 = 2 ^ range.size.toNat.log2 * 2 ^ leadingZeros range.size := by
          rw [← Nat.pow_add, hsum]
          rfl
      _ ≤ range.size.toNat * 2 ^ leadingZeros range.size :=
          Nat.mul_le_mul_right _ (Nat.log2_self_le hpositive)
  · calc range.size.toNat * 2 ^ leadingZeros range.size <
          2 ^ (range.size.toNat.log2 + 1) * 2 ^ leadingZeros range.size :=
          Nat.mul_lt_mul_of_pos_right Nat.lt_log2_self (Nat.two_pow_pos _)
      _ = UInt32.size := by
          rw [← Nat.pow_add, Nat.add_right_comm, hsum]

theorem toNat_zone (hsize : range.size ≠ 0) :
    range.zone.toNat + 1 = range.width <<< leadingZeros range.size := by
  obtain ⟨hlow, hhigh⟩ := shifted_width_bounds hrange hsize
  unfold zone
  rw [toNat_size_of_ne hrange hsize]
  generalize range.width <<< leadingZeros range.size = shifted at *
  simp only [UInt32.size] at hlow hhigh
  rw [UInt32.toNat_sub_of_le]
  · rw [UInt32.toNat_ofNat_of_lt' hhigh]
    show shifted - 1 + 1 = shifted
    omega
  · rw [UInt32.le_iff_toNat_le, UInt32.toNat_ofNat_of_lt' hhigh]
    show 1 ≤ shifted
    omega

/-! ## Acceptance -/

theorem toNat_add_place (word : UInt32) :
    (range.lo + UInt32.ofNat (range.place word)).toNat = range.lo.toNat + range.place word := by
  have hplace := place_lt_width range word
  have hle : range.lo.toNat ≤ range.hi.toNat := hrange
  have hhi := range.hi.toNat_lt
  unfold width at hplace
  rw [UInt32.toNat_add, UInt32.toNat_ofNat_of_lt' (by simp only [UInt32.size]; omega)]
  omega

/-- One rule for all ranges: an accepted word stands for the element at its place. -/
theorem accept?_eq_some_iff (word value : UInt32) :
    range.accept? word = some value ↔
      range.Accepts word ∧ value.toNat = range.lo.toNat + range.place word := by
  by_cases hsize : range.size = 0
  -- a product with the number of all words leaves no rest, and its quotient is the word
  · obtain rfl := eq_allWords_of_size hrange hsize
    have hrest : allWords.Accepts word := by
      show word.toNat * 4294967296 % 4294967296 < _
      rw [Nat.mul_mod_left]
      decide
    have hplace : allWords.place word = word.toNat :=
      Nat.mul_div_cancel word.toNat (by decide : 0 < 4294967296)
    have haccept : allWords.accept? word = some word := if_pos hsize
    rw [haccept, hplace, Option.some.injEq, ← UInt32.toNat_inj]
    constructor
    · intro heq
      exact ⟨hrest, by rw [← heq]; exact (Nat.zero_add _).symm⟩
    · rintro ⟨-, heq⟩
      rw [heq]
      exact (Nat.zero_add _).symm
  · have hzone := toNat_zone hrange hsize
    have hrest : UInt32.ofNat (word.toNat * range.width) ≤ range.zone ↔ range.Accepts word := by
      rw [UInt32.le_iff_toNat_le, UInt32.toNat_ofNat', ← Nat.lt_succ_iff]
      show _ < range.zone.toNat + 1 ↔ _
      rw [hzone]
      exact Iff.rfl
    unfold accept?
    rw [if_neg hsize, toNat_size_of_ne hrange hsize]
    dsimp only
    by_cases haccepts : range.Accepts word
    · rw [if_pos (hrest.mpr haccepts), Option.some.injEq, ← UInt32.toNat_inj]
      show (range.lo + UInt32.ofNat (range.place word)).toNat = _ ↔ _
      rw [toNat_add_place hrange]
      simp [haccepts, eq_comm]
    · rw [if_neg fun hle => haccepts (hrest.mp hle)]
      simp [haccepts]

theorem isSome_accept?_iff (word : UInt32) :
    (range.accept? word).isSome = true ↔ range.Accepts word := by
  rw [Option.isSome_iff_exists]
  constructor
  · rintro ⟨value, hvalue⟩
    exact ((accept?_eq_some_iff hrange word value).mp hvalue).1
  · intro haccepts
    exact ⟨_, (accept?_eq_some_iff hrange word _).mpr ⟨haccepts, toNat_add_place hrange word⟩⟩

theorem accept?_eq_none_iff (word : UInt32) :
    range.accept? word = none ↔ ¬ range.Accepts word := by
  rw [← isSome_accept?_iff hrange, Bool.not_eq_true, Option.isSome_eq_false_iff, Option.isNone_iff_eq_none]

/-- What an accepted word stands for lies in the range. -/
theorem contains_of_accept? {word value : UInt32} (haccept : range.accept? word = some value) :
    range.Contains value := by
  obtain ⟨-, hvalue⟩ := (accept?_eq_some_iff hrange word value).mp haccept
  have hplace := place_lt_width range word
  have hle : range.lo.toNat ≤ range.hi.toNat := hrange
  unfold width at hplace
  constructor
  · rw [UInt32.le_iff_toNat_le]
    omega
  · rw [UInt32.le_iff_toNat_le]
    omega

end Nonempty

end DrawRange

/-! ## The first accepted word -/

namespace Words

/-- The word at this place is the first that a range accepts of those not yet taken. -/
structure IsFirstAccepted (words : Words) (range : DrawRange) (i : Nat) : Prop where
  remains : words.taken ≤ i
  accepted : range.Accepts (words.word i)
  first : ∀ j, words.taken ≤ j → j < i → ¬ range.Accepts (words.word j)

theorem exists_of_search_eq_some {word : Nat → UInt32} {range : DrawRange} {steps position : Nat}
    {value : UInt32} {next : Nat} (h : search word range steps position = some (value, next)) :
    ∃ i, next = i + 1 ∧ position ≤ i ∧ range.accept? (word i) = some value ∧
      ∀ j, position ≤ j → j < i → range.accept? (word j) = none := by
  induction steps generalizing position with
  | zero => cases h
  | succ steps ih =>
    rw [search] at h
    cases hhere : range.accept? (word position) with
    -- the word at hand is the first, or it is one more that is rejected
    | some found =>
      rw [hhere] at h
      obtain ⟨rfl, rfl⟩ := Prod.mk.inj (Option.some.inj h)
      refine ⟨position, rfl, Nat.le_refl _, hhere, ?_⟩
      intro j hlow hhigh
      omega
    | none =>
      rw [hhere] at h
      obtain ⟨i, hnext, hlow, haccept, hbefore⟩ := ih h
      refine ⟨i, hnext, by omega, haccept, ?_⟩
      intro j hj hji
      by_cases heq : j = position
      · rw [heq, hhere]
      · exact hbefore j (by omega) hji

section Draws
variable {range : DrawRange} (hrange : range.lo ≤ range.hi) {words : Words} {value : UInt32}
include hrange

/-- A draw that gives a value gives the one that the first accepted word stands for, and takes the
    words up to this one. -/
theorem exists_of_draw_eq_ok (h : (words.draw range).1 = .ok value) :
    ∃ i, words.IsFirstAccepted range i ∧ range.accept? (words.word i) = some value ∧
      (words.draw range).2 = { words with taken := i + 1 } := by
  unfold draw at h ⊢
  rw [if_neg (UInt32.not_lt.mpr hrange)] at h ⊢
  cases hsearch : search words.word range period words.taken with
  | none =>
    rw [hsearch] at h
    cases h
  | some found =>
    obtain ⟨drawn, next⟩ := found
    rw [hsearch] at h
    obtain rfl := Except.ok.inj h
    obtain ⟨i, rfl, hlow, haccept, hbefore⟩ := exists_of_search_eq_some hsearch
    refine ⟨i, ⟨hlow, ?_, ?_⟩, haccept, rfl⟩
    · exact ((DrawRange.accept?_eq_some_iff hrange _ _).mp haccept).1
    · intro j hj hji
      exact (DrawRange.accept?_eq_none_iff hrange _).mp (hbefore j hj hji)

/-- If the next word is accepted, the draw ends with it. -/
theorem draw_of_accept? (h : range.accept? (words.word words.taken) = some value) :
    words.draw range = (.ok value, { words with taken := words.taken + 1 }) := by
  obtain ⟨steps, hsteps⟩ : ∃ steps, period = steps + 1 := ⟨period - 1, by decide⟩
  have hsearch : search words.word range period words.taken = some (value, words.taken + 1) := by
    rw [hsteps, search, h]
  unfold draw
  rw [if_neg (UInt32.not_lt.mpr hrange), hsearch]

end Draws

end Words

end SignalStub.Randomness
