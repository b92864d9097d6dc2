import Mathlib.Tactic.SplitIfs
import SignalStub.Text.Quoted

/-! # Quoted forms read back

    A quoted form is read back as what was quoted, whatever follows the form: `decode` undoes
    `encode` for both delimiters. So a form determines its text, also in the middle of a longer text.

    Every character of a form has a printed form of its own. A control, and whatever else breaks a
    line, has none, so a form stays on one line.
-/

namespace SignalStub.Text.Quoted

/-- The delimiters of quoted forms. -/
def IsDelimiter (c : Char) : Prop := c = '"' ∨ c = '\''

/-! ## Code points -/

theorem hexDigit?_digitChar : ∀ d : Nat, d < 16 → hexDigit? (Nat.digitChar d) = some d := by
  decide

theorem digitChar_ne_brace : ∀ d : Nat, d < 16 → Nat.digitChar d ≠ '\x7d' := by
  decide

section Decoding
variable {delimiter : Char}

theorem decodeFrom_digitChar {d : Nat} (hd : d < 16) (value : Nat) (rest : List Char) :
    decodeFrom delimiter (.code value) (Nat.digitChar d :: rest) =
      decodeFrom delimiter (.code (16 * value + d)) rest := by
  simp only [decodeFrom, hexDigit?_digitChar d hd, digitChar_ne_brace d hd, if_false]

/-- The digits of a code point are read as the code point. -/
theorem decodeFrom_toDigits (code : Nat) (rest : List Char) :
    decodeFrom delimiter (.code 0) (Nat.toDigits 16 code ++ rest) =
      decodeFrom delimiter (.code code) rest := by
  -- the last digit is split off, as it is when the digits are written
  induction code using Nat.strongRecOn generalizing rest with
  | ind code ih =>
    by_cases hsmall : code < 16
    · rw [Nat.toDigits_of_lt_base hsmall, List.singleton_append, decodeFrom_digitChar hsmall]
      simp
    · have hlast : code % 16 < 16 := Nat.mod_lt _ (by decide)
      have hcode : 16 * (code / 16) + code % 16 = code := by omega
      rw [Nat.toDigits_of_base_le (by decide) (by omega), List.append_assoc,
        List.singleton_append, ih (code / 16) (by omega), decodeFrom_digitChar hlast, hcode]

/-! ## Characters -/

/-- The reader takes one written character and goes on behind it. -/
theorem decodeFrom_escape (hdelimiter : IsDelimiter delimiter) (c : Char) (rest : List Char) :
    decodeFrom delimiter .plain (escape delimiter c ++ rest) =
      (decodeFrom delimiter .plain rest).map fun (cs, rest) => (c :: cs, rest) := by
  have hbackslash : '\\' ≠ delimiter := by
    rcases hdelimiter with rfl | rfl <;> decide
  unfold escape
  -- one case for each way to write a character, in the order in which they are tried
  split_ifs with hnull htab hreturn hnewline hescaped hcode
  · subst hnull; simp [decodeFrom, escaped?, hbackslash]
  · subst htab; simp [decodeFrom, escaped?, hbackslash]
  · subst hreturn; simp [decodeFrom, escaped?, hbackslash]
  · subst hnewline; simp [decodeFrom, escaped?, hbackslash]
  -- a backslash, and the delimiter, stand for themselves behind a backslash
  · obtain ⟨hletter, hself⟩ : c ≠ 'u' ∧ escaped? c = some c := by
      have hkind : c = '\\' ∨ c = delimiter := by simpa using hescaped
      rcases hkind with rfl | rfl
      · decide
      · rcases hdelimiter with rfl | rfl <;> decide
    simp [decodeFrom, hbackslash, hletter, hself]
  · have hdigits := @decodeFrom_toDigits delimiter c.toNat ('\x7d' :: rest)
    simp [escapeCode, decodeFrom, hbackslash, hdigits]
  · obtain ⟨hplain, hend⟩ : c ≠ '\\' ∧ c ≠ delimiter := by simpa using hescaped
    simp [decodeFrom, hplain, hend]

theorem decodeFrom_written (hdelimiter : IsDelimiter delimiter) (cs rest : List Char) :
    decodeFrom delimiter .plain (cs.flatMap (escape delimiter) ++ delimiter :: rest) =
      some (cs, rest) := by
  induction cs with
  | nil => simp [decodeFrom]
  | cons c cs ih =>
    rw [List.flatMap_cons, List.append_assoc, decodeFrom_escape hdelimiter, ih]
    rfl

/-! ## Forms -/

/-- A form with anything behind it is read back as what was quoted. -/
theorem decode_encode (hdelimiter : IsDelimiter delimiter) (cs rest : List Char) :
    decode delimiter (encode delimiter cs ++ rest) = some (cs, rest) := by
  have hwritten := decodeFrom_written hdelimiter cs rest
  simp [encode, decode, hwritten]

end Decoding

theorem decode_text (s : String) (rest : List Char) :
    decode '"' ((text s).toList ++ rest) = some (s.toList, rest) := by
  rw [text, String.toList_ofList]
  exact decode_encode (.inl rfl) s.toList rest

theorem decode_char (c : Char) (rest : List Char) :
    decode '\'' ((char c).toList ++ rest) = some ([c], rest) := by
  rw [char, String.toList_ofList]
  exact decode_encode (.inr rfl) [c] rest

/-- The quotes, the backslash and a character without a printed form, in both kinds of form. -/
example : text "'\"\\\u202e" = "\"'\\\"\\\\\\u\x7b202e\x7d\"" ∧ char '\'' = "'\\''" := by
  decide +kernel

/-! ## What a form consists of -/

/-- A character has a printed form of its own and is not drawn on its neighbour. -/
def IsShown (c : Char) : Prop :=
  unprintableRanges.has c = false ∧ graphemeExtendRanges.has c = false

/-- Blanks, signs, digits and letters of the plain kind are in neither of the tables. -/
theorem isShown_of_plain {c : Char} (hlow : 32 ≤ c.toNat) (hhigh : c.toNat < 127) : IsShown c := by
  have hout : ∀ ranges : CharRanges,
      ranges.all (fun range => decide (range.2 < 32) || decide (127 ≤ range.1)) = true →
        ranges.has c = false := by
    intro ranges hall
    unfold CharRanges.has
    rw [List.any_eq_false]
    intro range hrange
    have hapart : range.2 < 32 ∨ 127 ≤ range.1 := by
      simpa using List.all_eq_true.mp hall range hrange
    simp
    omega
  constructor
  · exact hout _ (by decide +kernel)
  · exact hout _ (by decide +kernel)

/-- The characters that forms are made of besides what they quote. -/
def formChars : List Char := "\"'\\0trnu\x7b\x7d".toList

theorem isShown_of_mem_formChars : ∀ c ∈ formChars, IsShown c := by
  have hall : formChars.all (fun c => decide (32 ≤ c.toNat) && decide (c.toNat < 127)) = true := by
    decide
  intro c hc
  obtain ⟨hlow, hhigh⟩ : 32 ≤ c.toNat ∧ c.toNat < 127 := by
    simpa using List.all_eq_true.mp hall c hc
  exact isShown_of_plain hlow hhigh

theorem isShown_digitChar {d : Nat} (hd : d < 16) : IsShown (Nat.digitChar d) := by
  have hplain : ∀ d : Nat, d < 16 →
      32 ≤ (Nat.digitChar d).toNat ∧ (Nat.digitChar d).toNat < 127 := by
    decide
  exact isShown_of_plain (hplain d hd).1 (hplain d hd).2

/-- The digits of a code point are shown. -/
theorem isShown_toDigits (code : Nat) : ∀ c ∈ Nat.toDigits 16 code, IsShown c := by
  induction code using Nat.strongRecOn with
  | ind code ih =>
    intro c hc
    by_cases hsmall : code < 16
    · rw [Nat.toDigits_of_lt_base hsmall, List.mem_singleton] at hc
      rw [hc]
      exact isShown_digitChar hsmall
    · rw [Nat.toDigits_of_base_le (by decide) (by omega), List.mem_append, List.mem_singleton] at hc
      rcases hc with hfirst | rfl
      · exact ih (code / 16) (by omega) c hfirst
      · exact isShown_digitChar (Nat.mod_lt _ (by decide))

theorem isShown_escape {delimiter : Char} (hdelimiter : IsDelimiter delimiter) (c : Char) :
    ∀ d ∈ escape delimiter c, IsShown d := by
  have hform : ∀ cs : List Char, cs.all (formChars.contains ·) = true → ∀ d ∈ cs, IsShown d := by
    intro cs hcs d hd
    exact isShown_of_mem_formChars d (List.contains_iff_mem.mp (List.all_eq_true.mp hcs d hd))
  unfold escape
  split_ifs with hnull htab hreturn hnewline hescaped hcode
  · exact hform _ (by decide)
  · exact hform _ (by decide)
  · exact hform _ (by decide)
  · exact hform _ (by decide)
  · have hkind : c = '\\' ∨ c = delimiter := by simpa using hescaped
    rcases hkind with rfl | rfl
    · exact hform _ (by decide)
    · rcases hdelimiter with rfl | rfl <;> exact hform _ (by decide)
  · intro d hd
    simp only [escapeCode, List.mem_cons, List.mem_append, List.not_mem_nil, or_false] at hd
    rcases hd with rfl | rfl | rfl | hdigit | rfl
    · exact isShown_of_mem_formChars _ (by decide)
    · exact isShown_of_mem_formChars _ (by decide)
    · exact isShown_of_mem_formChars _ (by decide)
    · exact isShown_toDigits _ d hdigit
    · exact isShown_of_mem_formChars _ (by decide)
  -- what is written as it is was in neither table
  · intro d hd
    rw [List.mem_singleton] at hd
    obtain ⟨hextend, hunprintable⟩ : graphemeExtendRanges.has c = false ∧
        unprintableRanges.has c = false := by simpa using hcode
    rw [hd]
    exact ⟨hunprintable, hextend⟩

/-- Every character of a form is shown, whatever was quoted. -/
theorem isShown_encode {delimiter : Char} (hdelimiter : IsDelimiter delimiter) (cs : List Char) :
    ∀ d ∈ encode delimiter cs, IsShown d := by
  have hends : IsShown delimiter := by
    rcases hdelimiter with rfl | rfl <;> exact isShown_of_mem_formChars _ (by decide)
  intro d hd
  simp only [encode, List.mem_cons, List.mem_append, List.mem_flatMap, List.not_mem_nil,
    or_false] at hd
  rcases hd with rfl | ⟨c, -, hwritten⟩ | rfl
  · exact hends
  · exact isShown_escape hdelimiter c d hwritten
  · exact hends

/-! ## Controls and line breaks -/

/-- The controls: the characters before the blank, and those behind the plain ones. -/
def IsControl (c : Char) : Prop := c.toNat < 32 ∨ (127 ≤ c.toNat ∧ c.toNat < 160)

/-- The characters that end a line. -/
def lineBreaks : List Char := ['\n', '\x0b', '\x0c', '\r', '\u0085', '\u2028', '\u2029']

theorem IsShown.not_isControl {c : Char} (h : IsShown c) : ¬ IsControl c := by
  have hranges : [(0x0, 0x1f), (0x7f, 0xa0)].all (unprintableRanges.contains ·) = true := by
    decide +kernel
  intro hcontrol
  have hmem : ∀ range ∈ [((0x0 : Nat), (0x1f : Nat)), (0x7f, 0xa0)], range ∈ unprintableRanges := by
    intro range hrange
    simpa using List.all_eq_true.mp hranges range hrange
  have hout : ∀ range ∈ unprintableRanges, ¬ (range.1 ≤ c.toNat ∧ c.toNat ≤ range.2) := by
    intro range hrange
    simpa using List.any_eq_false.mp h.1 range hrange
  have hlow := hout _ (hmem (0x0, 0x1f) (by simp))
  have hhigh := hout _ (hmem (0x7f, 0xa0) (by simp))
  unfold IsControl at hcontrol
  simp at hlow hhigh
  omega

theorem IsShown.not_mem_lineBreaks {c : Char} (h : IsShown c) : c ∉ lineBreaks := by
  have hall : lineBreaks.all unprintableRanges.has = true := by decide +kernel
  intro hbreak
  have hunprintable := List.all_eq_true.mp hall c hbreak
  rw [h.1] at hunprintable
  cases hunprintable

end SignalStub.Text.Quoted
