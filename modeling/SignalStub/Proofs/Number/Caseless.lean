import SignalStub.Proofs.Number.Characters

/-! # Numerals in any letter case

    The letters of a numeral are the mark of an exponent and the words for what has no digits, and
    both are read in either letter case. So a text and its lower case are read as the same double, or
    neither is read.

    None of these letters is a `k`. A numeral is therefore plain, and every text with the same lower
    case as a numeral is that numeral in other letters.
-/

namespace SignalStub.Number

open Binary64

/-! ## Digits -/

/-- No digit is a letter. -/
theorem not_isAlpha_of_isDigit {c : Char} (h : c.isDigit = true) : c.isAlpha = false := by
  have hbounds := toNat_of_isDigit h
  rw [Bool.eq_false_iff]
  intro halpha
  have hcode := Text.le_toNat_of_isAlpha halpha
  omega

theorem isDigit_toLower (c : Char) : c.toLower.isDigit = c.isDigit := by
  have hletter : ∀ {c : Char}, c.isAlpha = true → c.isDigit = false := by
    intro c halpha
    rw [Bool.eq_false_iff]
    intro hdigit
    rw [not_isAlpha_of_isDigit hdigit] at halpha
    cases halpha
  rcases Text.toLower_cases c with hsame | ⟨halpha, hlower⟩
  · rw [hsame]
  · rw [hletter halpha, hletter hlower]

/-- Digits are the same in lower case. -/
theorem map_toLower_of_digits {cs : List Char} (h : ∀ c ∈ cs, c.isDigit = true) :
    cs.map Char.toLower = cs := by
  have hsame : ∀ c ∈ cs, c.toLower = c :=
    fun c hc => Text.toLower_of_not_isAlpha (not_isAlpha_of_isDigit (h c hc))
  rw [List.map_congr_left hsame, List.map_id']

theorem isDigits_map_iff (cs : List Char) : IsDigits (cs.map Char.toLower) ↔ IsDigits cs := by
  unfold IsDigits
  rw [ne_eq, List.map_eq_nil_iff, List.forall_mem_map]
  simp only [isDigit_toLower]

theorem noDigitFirst_map {cs : List Char} (h : NoDigitFirst cs) :
    NoDigitFirst (cs.map Char.toLower) := by
  intro d rest hmap
  cases cs with
  | nil => cases hmap
  | cons c cs =>
    obtain ⟨rfl, -⟩ := List.cons.inj hmap
    rw [isDigit_toLower]
    exact h c cs rfl

/-! ## Pieces of numerals -/

/-- A character that is no letter begins the lower case of a text only where it begins the text. -/
theorem first_of_map {cs rest : List Char} {d : Char} (hd : d.isAlpha = false)
    (h : cs.map Char.toLower = d :: rest) : ∃ tail, cs = d :: tail := by
  cases cs with
  | nil => cases h
  | cons c cs =>
    obtain ⟨hfirst, -⟩ := List.cons.inj h
    exact ⟨cs, by rw [Text.eq_of_toLower hd hfirst]⟩

theorem splitSign_map (cs : List Char) :
    splitSign (cs.map Char.toLower) = ((splitSign cs).1, (splitSign cs).2.map Char.toLower) := by
  cases cs with
  | nil => rfl
  | cons c cs =>
    by_cases hminus : c = '-'
    · rw [hminus]
      rfl
    · by_cases hplus : c = '+'
      · rw [hplus]
        rfl
      · rw [splitSign_of_unsigned hminus hplus, List.map_cons, splitSign_of_unsigned]
        · exact fun hlower => hminus (Text.eq_of_toLower rfl hlower)
        · exact fun hlower => hplus (Text.eq_of_toLower rfl hlower)

theorem isSpelling_map_iff (word : String) (cs : List Char) :
    IsSpelling word (cs.map Char.toLower) ↔ IsSpelling word cs := by
  unfold IsSpelling
  rw [List.map_map]
  have hsame : Char.toLower ∘ Char.toLower = Char.toLower := funext Text.toLower_toLower
  rw [hsame]

/-- The mark of an exponent is an `e` in either letter case. -/
theorem isMark_toLower_iff (c : Char) :
    (c.toLower = 'e' ∨ c.toLower = 'E') ↔ (c = 'e' ∨ c = 'E') := by
  rcases Text.toLower_cases c with hsame | ⟨halpha, -⟩
  · rw [hsame]
  · exact Text.forall_ascii
      (fun c => (c.toLower = 'e' ∨ c.toLower = 'E') ↔ (c = 'e' ∨ c = 'E')) (by decide)
      (Text.ascii_of_isAlpha halpha)

theorem readExponent?_map (cs : List Char) :
    readExponent? (cs.map Char.toLower) = readExponent? cs := by
  cases cs with
  | nil => rfl
  | cons mark cs =>
    rw [List.map_cons, readExponent?_cons, readExponent?_cons, splitSign_map]
    dsimp only
    by_cases hdigits : IsDigits (splitSign cs).2
    · simp only [isMark_toLower_iff, map_toLower_of_digits hdigits.2]
    · have hnone := mt (isDigits_map_iff _).mp hdigits
      simp only [hdigits, hnone, and_false, if_false]

theorem readUnsigned?_map (negative : Bool) (cs : List Char) :
    readUnsigned? negative (cs.map Char.toLower) = readUnsigned? negative cs := by
  rcases exists_pieces cs with ⟨digits, rest, rfl, hdigits, hrest, hpoint⟩ |
    ⟨whole, fraction, rest, rfl, hdigits, hrest⟩
  · have hpoint' : ∀ tail, rest.map Char.toLower ≠ '.' :: tail := by
      intro tail hmap
      obtain ⟨tail', hrest⟩ := first_of_map rfl hmap
      exact hpoint tail' hrest
    rw [List.map_append, map_toLower_of_digits hdigits,
      readUnsigned?_whole negative hdigits (noDigitFirst_map hrest) hpoint',
      readUnsigned?_whole negative hdigits hrest hpoint, readExponent?_map]
  · have hwhole := map_toLower_of_digits fun c hc => hdigits c (List.mem_append_left _ hc)
    have hfraction := map_toLower_of_digits fun c hc => hdigits c (List.mem_append_right _ hc)
    have hdot : '.'.toLower = '.' := by decide
    rw [List.map_append, List.map_cons, List.map_append, hwhole, hfraction, hdot,
      readUnsigned?_pointed negative hdigits (noDigitFirst_map hrest),
      readUnsigned?_pointed negative hdigits hrest, readExponent?_map]

/-! ## Numerals -/

/-- A text is read as its lower case is. -/
theorem read?_map (cs : List Char) : read? (cs.map Char.toLower) = read? cs := by
  rw [read?_eq, read?_eq, splitSign_map]
  simp only [isSpelling_map_iff, readUnsigned?_map]

theorem denotes_map_iff (cs : List Char) (x : Binary64) :
    Denotes (cs.map Char.toLower) x ↔ Denotes cs x := by
  rw [← read?_eq_some_iff, read?_map, read?_eq_some_iff]

/-- Numerals are plain. -/
theorem coversNumerals_plain :
    CoversNumerals fun c => c.toNat < 128 ∧ c.toLower ≠ 'k' where
  digit := by
    intro c hdigit
    have hbounds := toNat_of_isDigit hdigit
    rw [Text.toLower_of_not_isAlpha (not_isAlpha_of_isDigit hdigit)]
    refine ⟨by omega, ?_⟩
    rintro rfl
    cases hdigit
  letter := by
    have hall : numeralLetters.all (fun c => c.isAlpha && decide (c ≠ 'k')) = true := by decide
    intro c hc
    obtain ⟨halpha, hk⟩ : c.toLower.isAlpha = true ∧ c.toLower ≠ 'k' := by
      simpa using List.all_eq_true.mp hall _ hc
    exact ⟨Text.ascii_of_isAlpha (Text.isAlpha_of_toLower halpha), hk⟩
  sign := by decide
  point := by decide

/-- Two texts with one lower case stand for the same doubles. -/
theorem denotes_iff_of_lowercase {s t : String} (h : Text.lowercase s = Text.lowercase t)
    (x : Binary64) : Denotes s.toList x ↔ Denotes t.toList x := by
  have htransfer : ∀ {s t : String}, Text.lowercase s = Text.lowercase t →
      Denotes s.toList x → Denotes t.toList x := by
    intro s t hlower hdenotes
    have hplain : Text.IsPlainText s.toList := coversNumerals_plain.isNumeral ⟨x, hdenotes⟩
    rw [← denotes_map_iff, Text.map_toLower_eq hplain hlower.symm, denotes_map_iff]
    exact hdenotes
  exact ⟨htransfer h, htransfer h.symm⟩

end SignalStub.Number
