import SignalStub.Number.Shortest
import SignalStub.Proofs.Number.Numeral

/-! # The characters of numerals

    A numeral is made of digits, letters, signs and points, and has one point at most. What is
    written for a double is made of the same characters. So a text with any other character was
    neither read as a number nor written for one.
-/

namespace SignalStub.Number

open Binary64

/-! ## Characters -/

/-- Digits, letters, signs and points. -/
def IsNumeralChar (c : Char) : Prop :=
  c.isDigit = true ∨ c.isAlpha = true ∨ c = '+' ∨ c = '-' ∨ c = '.'

instance : DecidablePred IsNumeralChar := fun c =>
  inferInstanceAs (Decidable (c.isDigit = true ∨ c.isAlpha = true ∨ c = '+' ∨ c = '-' ∨ c = '.'))

theorem isNumeralChar_of_all {cs : List Char}
    (h : cs.all (fun c => decide (IsNumeralChar c)) = true) : ∀ c ∈ cs, IsNumeralChar c :=
  fun c hc => of_decide_eq_true (List.all_eq_true.mp h c hc)

/-- The letters of exponents and of the words that count as numerals. -/
def numeralLetters : List Char := "aefinty".toList

/-- A property of every character that a numeral can have. -/
structure CoversNumerals (p : Char → Prop) : Prop where
  digit : ∀ c, c.isDigit = true → p c
  letter : ∀ c, c.toLower ∈ numeralLetters → p c
  sign : p '+' ∧ p '-'
  point : p '.'

namespace CoversNumerals

variable {p : Char → Prop} (h : CoversNumerals p) {cs : List Char}
include h

theorem isDigits (hdigits : IsDigits cs) : ∀ c ∈ cs, p c :=
  fun c hc => h.digit c (hdigits.2 c hc)

theorem isSpelling {word : String} (hword : word ∈ numberWords) (hspelling : IsSpelling word cs) :
    ∀ c ∈ cs, p c := by
  have hall : numberWords.all (fun word => word.toList.all (numeralLetters.contains ·)) = true := by
    decide
  intro c hc
  have hmem : c.toLower ∈ word.toList := by
    rw [← hspelling, String.toList_ofList]
    exact List.mem_map_of_mem hc
  have hletter := List.all_eq_true.mp (List.all_eq_true.mp hall word hword) _ hmem
  exact h.letter c (List.contains_iff_mem.mp hletter)

theorem isSign {negative : Bool} (hsign : IsSign cs negative) : ∀ c ∈ cs, p c := by
  cases hsign with
  | absent => simp
  | plus => simp [h.sign.1]
  | minus => simp [h.sign.2]

theorem isExponent {value : Int} (hexponent : IsExponent cs value) : ∀ c ∈ cs, p c := by
  cases hexponent with
  | absent => simp
  | @present mark _ _ _ hmark hsign hdigits =>
    have hletter : p mark := by
      apply h.letter
      rcases hmark with rfl | rfl <;> decide
    exact List.forall_mem_cons.mpr
      ⟨hletter, List.forall_mem_append.mpr ⟨h.isSign hsign, h.isDigits hdigits⟩⟩

theorem isDecimal {digits : Nat} {exponent : Int} (hdecimal : IsDecimal cs digits exponent) :
    ∀ c ∈ cs, p c := by
  cases hdecimal with
  | whole hdigits hexponent =>
    exact List.forall_mem_append.mpr ⟨h.isDigits hdigits, h.isExponent hexponent⟩
  | pointed hdigits hexponent =>
    obtain ⟨hwhole, hfraction⟩ := List.forall_mem_append.mp (h.isDigits hdigits)
    have hbehind := List.forall_mem_append.mpr ⟨hfraction, h.isExponent hexponent⟩
    exact List.forall_mem_append.mpr ⟨hwhole, List.forall_mem_cons.mpr ⟨h.point, hbehind⟩⟩

/-- It holds of every character of a numeral. -/
theorem isNumeral (hnumeral : IsNumeral cs) : ∀ c ∈ cs, p c := by
  obtain ⟨x, hx⟩ := hnumeral
  cases hx with
  | decimal hsign hdecimal =>
    exact List.forall_mem_append.mpr ⟨h.isSign hsign, h.isDecimal hdecimal⟩
  | @infinite _ word _ hsign hspelling =>
    have hword : ∀ c ∈ word, p c := by
      rcases hspelling with hspelling | hspelling
      · exact h.isSpelling (by decide) hspelling
      · exact h.isSpelling (by decide) hspelling
    exact List.forall_mem_append.mpr ⟨h.isSign hsign, hword⟩
  | nan hsign hspelling =>
    exact List.forall_mem_append.mpr ⟨h.isSign hsign, h.isSpelling (by decide) hspelling⟩

end CoversNumerals

theorem coversNumerals_isNumeralChar : CoversNumerals IsNumeralChar where
  digit := fun _ hdigit => .inl hdigit
  letter := by
    have hall : numeralLetters.all Char.isAlpha = true := by decide
    intro c hc
    exact .inr (.inl (Text.isAlpha_of_toLower (List.all_eq_true.mp hall _ hc)))
  sign := by decide
  point := by decide

theorem IsDigits.char {cs : List Char} (h : IsDigits cs) : ∀ c ∈ cs, IsNumeralChar c :=
  coversNumerals_isNumeralChar.isDigits h

/-- No other character stands in a numeral. -/
theorem IsNumeral.char {cs : List Char} (h : IsNumeral cs) : ∀ c ∈ cs, IsNumeralChar c :=
  coversNumerals_isNumeralChar.isNumeral h

/-! ## Points -/

/-- There is no point among other characters. -/
theorem count_point_eq_zero {cs : List Char} {p : Char → Bool} (hp : p '.' = false)
    (h : ∀ c ∈ cs, p c = true) : cs.count '.' = 0 := by
  apply List.count_eq_zero_of_not_mem
  intro hpoint
  have hchar := h '.' hpoint
  rw [hp] at hchar
  cases hchar

theorem IsSign.count_point {cs : List Char} {negative : Bool} (h : IsSign cs negative) :
    cs.count '.' = 0 := by
  cases h <;> decide

theorem IsExponent.count_point {cs : List Char} {value : Int} (h : IsExponent cs value) :
    cs.count '.' = 0 := by
  cases h with
  | absent => rfl
  | present hmark hsign hdigits =>
    have hpoint := count_point_eq_zero (by decide) hdigits.2
    rcases hmark with rfl | rfl
    · rw [List.count_cons_of_ne (by decide), List.count_append, hsign.count_point, hpoint]
    · rw [List.count_cons_of_ne (by decide), List.count_append, hsign.count_point, hpoint]

theorem IsDecimal.count_point {cs : List Char} {digits : Nat} {exponent : Int}
    (h : IsDecimal cs digits exponent) : cs.count '.' ≤ 1 := by
  cases h with
  | whole hdigits hexponent =>
    rw [List.count_append, hexponent.count_point, count_point_eq_zero (by decide) hdigits.2]
    decide
  | @pointed whole fraction exponent value hdigits hexponent =>
    have hboth := count_point_eq_zero (by decide) hdigits.2
    rw [List.count_append] at hboth
    rw [List.count_append, List.count_cons_self, List.count_append, hexponent.count_point]
    omega

/-- A numeral has one point at most. -/
theorem IsNumeral.count_point {cs : List Char} (h : IsNumeral cs) : cs.count '.' ≤ 1 := by
  have hword : ∀ {word cs}, word ∈ numberWords → IsSpelling word cs → cs.count '.' = 0 :=
    fun hword hspelling => count_point_eq_zero (by decide) (hspelling.isAlpha hword)
  obtain ⟨x, hx⟩ := h
  cases hx with
  | decimal hsign hdecimal =>
    have hbody := hdecimal.count_point
    rw [List.count_append, hsign.count_point]
    omega
  | infinite hsign hspelling =>
    rw [List.count_append, hsign.count_point]
    rcases hspelling with hspelling | hspelling
    · rw [hword (by decide) hspelling]
      decide
    · rw [hword (by decide) hspelling]
      decide
  | nan hsign hspelling =>
    rw [List.count_append, hsign.count_point, hword (by decide) hspelling]
    decide

/-! ## Doubles as texts -/

theorem isNumeralChar_positional (digits : Nat) (exponent : Int) :
    ∀ c ∈ positional digits exponent, IsNumeralChar c := by
  have hdigits := (isDigits_toDigits digits).char
  have hpoint : IsNumeralChar '.' := by decide
  have hzero : IsNumeralChar '0' := by decide
  have hzeros : ∀ count, ∀ c ∈ List.replicate count '0', IsNumeralChar c := by
    intro count c hc
    rw [List.eq_of_mem_replicate hc]
    exact hzero
  unfold positional
  dsimp only
  -- zeros behind the digits, a point between them, and zeros in front of them
  split
  next => exact List.forall_mem_append.mpr ⟨hdigits, hzeros _⟩
  next =>
    split
    next =>
      refine List.forall_mem_append.mpr ⟨?_, List.forall_mem_cons.mpr ⟨hpoint, ?_⟩⟩
      · exact fun c hc => hdigits c (List.mem_of_mem_take hc)
      · exact fun c hc => hdigits c (List.mem_of_mem_drop hc)
    next =>
      have hfraction := fun count => List.forall_mem_append.mpr ⟨hzeros count, hdigits⟩
      exact List.forall_mem_cons.mpr ⟨hzero, List.forall_mem_cons.mpr ⟨hpoint, hfraction _⟩⟩

/-- A double is written with the characters of numerals. -/
theorem isNumeralChar_toText (x : Binary64) : ∀ c ∈ x.toText.toList, IsNumeralChar c := by
  cases x with
  | nan => exact isNumeralChar_of_all (by decide)
  | infinite negative => cases negative <;> exact isNumeralChar_of_all (by decide)
  | finite negative mantissa exponent =>
    have hbody : ∀ c ∈ (if mantissa = 0 then ['0'] else
        positional (shortest mantissa exponent).1 (shortest mantissa exponent).2),
        IsNumeralChar c := by
      split
      next => exact isNumeralChar_of_all (by decide)
      next => exact isNumeralChar_positional _ _
    have hminus : IsNumeralChar '-' := by decide
    unfold toText
    rw [String.toList_ofList]
    cases negative with
    | false => exact hbody
    | true => exact List.forall_mem_cons.mpr ⟨hminus, hbody⟩

end SignalStub.Number
