import SignalStub.Proofs.Number.Characters
import SignalStub.Settings.Field

/-! # What texts are read as

    The text of a variable is a truth value, an integer, a double or a plain text. Only a plain text
    is kept as it is. The others are written anew when a text is asked for, and what is written then
    consists of the characters of numerals and of nothing else. So a text with any other character
    comes from a plain text alone, and a plain text is what it was.
-/

namespace SignalStub.Settings

open Number

/-- A text in any letter case of a truth value. -/
def IsTruthWord (value : String) : Prop :=
  Text.lowercase value = "true" ∨ Text.lowercase value = "false"

namespace Scalar

/-- The kinds of texts, each with what its texts are read as. -/
inductive Reads (value : String) : Scalar → Prop
  | yes : Text.lowercase value = "true" → Reads value (.boolean true)
  | no : Text.lowercase value = "false" → Reads value (.boolean false)
  | integer {n : Int} : ¬ IsTruthWord value → readInt64 value.toList = .ok n →
      Reads value (.integer n)
  | real {x : Binary64} : ¬ IsTruthWord value → (∀ n, readInt64 value.toList ≠ .ok n) →
      Denotes value.toList x → Reads value (.real x)
  | text : ¬ IsTruthWord value → ¬ IsNumeral value.toList → Reads value (.text value)

section Kinds
variable {value : String}

/-- What is no truth value is a number if it reads as one, and an integer before a double. -/
theorem read_of_not_isTruthWord (hword : ¬ IsTruthWord value) :
    read value =
      match readInt64 value.toList with
      | .ok n => .integer n
      | .error _ =>
        match Binary64.read? value.toList with
        | some x => .real x
        | none => .text value := by
  obtain ⟨hyes, hno⟩ := not_or.mp hword
  exact (if_neg hyes).trans (if_neg hno)

/-- Every text is read as one of its kinds. -/
theorem reads_read (value : String) : Reads value (read value) := by
  by_cases hyes : Text.lowercase value = "true"
  · have hread : read value = .boolean true := if_pos hyes
    rw [hread]
    exact .yes hyes
  by_cases hno : Text.lowercase value = "false"
  · have hread : read value = .boolean false := (if_neg hyes).trans (if_pos hno)
    rw [hread]
    exact .no hno
  have hword : ¬ IsTruthWord value := not_or.mpr ⟨hyes, hno⟩
  rw [read_of_not_isTruthWord hword]
  cases hinteger : readInt64 value.toList with
  | ok n => exact .integer hword hinteger
  | error fault =>
    have hnone : ∀ n, readInt64 value.toList ≠ .ok n := by
      intro n hn
      rw [hn] at hinteger
      cases hinteger
    cases hreal : Binary64.read? value.toList with
    | some x => exact .real hword hnone ((read?_eq_some_iff _ x).mp hreal)
    | none => exact .text hword ((read?_eq_none_iff _).mp hreal)

/-- The kinds exclude each other, so a text that fits one is read as it. -/
theorem Reads.read_eq {scalar : Scalar} (h : Reads value scalar) : read value = scalar := by
  cases h with
  | yes hyes => exact if_pos hyes
  | no hno =>
    have hyes : Text.lowercase value ≠ "true" := by
      rw [hno]
      decide
    exact (if_neg hyes).trans (if_pos hno)
  | integer hword hn => rw [read_of_not_isTruthWord hword, hn]
  | real hword hnone hx =>
    rw [read_of_not_isTruthWord hword, (read?_eq_some_iff _ _).mpr hx]
    cases hinteger : readInt64 value.toList with
    | ok n => exact absurd hinteger (hnone n)
    | error fault => rfl
  | text hword hnumeral =>
    rw [read_of_not_isTruthWord hword, (read?_eq_none_iff _).mpr hnumeral]
    cases hinteger : readInt64 value.toList with
    | ok n => exact absurd (isNumeral_of_readInt64 hinteger) hnumeral
    | error fault => rfl

end Kinds

/-- No truth value has a character before the letters. -/
theorem not_isTruthWord_of_mem {value : String} {c : Char} (hc : c.toNat < 65)
    (h : c ∈ value.toList) : ¬ IsTruthWord value := by
  have hletters : ["true", "false"].all (fun word => word.toList.all fun c => decide (65 ≤ c.toNat)) =
      true := by decide
  have hlower := Text.mem_lowercase hc h
  intro hword
  have hmem : Text.lowercase value ∈ ["true", "false"] := by
    rcases hword with hword | hword
    · exact List.mem_cons.mpr (.inl hword)
    · exact List.mem_cons_of_mem _ (List.mem_singleton.mpr hword)
  have hcode : 65 ≤ c.toNat :=
    of_decide_eq_true (List.all_eq_true.mp (List.all_eq_true.mp hletters _ hmem) c hlower)
  omega

/-! ## Integers -/

/-- The text of an integer is read as the integer if it fits, and as the nearest double if not. -/
theorem read_integerText (n : Int) :
    read (integerText n) =
      if FitsInt64 n then .integer n else .real (.ofDecimal (decide (n < 0)) n.natAbs 0) := by
  have hword : ¬ IsTruthWord (integerText n) := by
    obtain ⟨c, hc, hdigit⟩ := exists_isDigit_integerText n
    have hcode := toNat_of_isDigit hdigit
    exact not_isTruthWord_of_mem (by omega) hc
  by_cases hfits : FitsInt64 n
  · have hinteger := (readInt64_integerText n n).mpr ⟨rfl, hfits⟩
    rw [if_pos hfits, (Reads.integer hword hinteger).read_eq]
  · have hnone : ∀ m, readInt64 (integerText n).toList ≠ .ok m :=
      fun m hm => hfits ((readInt64_integerText n m).mp hm).2
    rw [if_neg hfits, (Reads.real hword hnone (denotes_integerText n)).read_eq]

/-! ## Characters -/

/-- What is written for a value that is no text consists of the characters of numerals. -/
theorem isNumeralChar_of_toText {value : String} {scalar : Scalar} (h : Reads value scalar)
    (hother : ∀ text, scalar ≠ .text text) : ∀ c ∈ scalar.toText.toList, IsNumeralChar c := by
  cases h with
  | yes => exact isNumeralChar_of_all (by decide)
  | no => exact isNumeralChar_of_all (by decide)
  | integer => exact IsNumeral.char ⟨_, denotes_integerText _⟩
  | real => exact isNumeralChar_toText _
  | text => exact absurd rfl (hother value)

section Foreign
variable {value : String} {c : Char} (hc : ¬ IsNumeralChar c)
include hc

/-- A text with a character that stands in no numeral is a plain text, unless it is a truth
    value. -/
theorem read_of_mem (hcode : c.toNat < 65) (h : c ∈ value.toList) : read value = .text value :=
  (Reads.text (not_isTruthWord_of_mem hcode h) fun hnumeral => hc (hnumeral.char c h)).read_eq

/-- Such a character is written for a plain text only. -/
theorem read_of_mem_toText (h : c ∈ (read value).toText.toList) : read value = .text value := by
  have hreads := reads_read value
  generalize read value = scalar at hreads h ⊢
  -- a plain text is written as it is, and nothing else is written with the character
  by_cases htext : ∃ text, scalar = .text text
  · obtain ⟨text, rfl⟩ := htext
    cases hreads
    rfl
  · have hother : ∀ text, scalar ≠ .text text := fun text htext' => htext ⟨text, htext'⟩
    exact absurd (isNumeralChar_of_toText hreads hother c h) hc

end Foreign

end Scalar

/-! ## Whole numbers -/

/-- An integer that fits is taken as it is unless it is negative. Any other one goes through a
    double, and is never a fault. -/
theorem readUnsigned64_integerText (key : String) (n : Int) :
    readUnsigned64 key (.scalar (.read (integerText n))) =
      if FitsInt64 n then
        if 0 ≤ n then .ok n.toNat else .error ⟨key, .integer n, .unsigned64, true⟩
      else .ok (Binary64.ofDecimal (decide (n < 0)) n.natAbs 0).toUnsigned64 := by
  rw [Scalar.read_integerText]
  by_cases hfits : FitsInt64 n
  · rw [if_pos hfits, if_pos hfits]
    rfl
  · rw [if_neg hfits, if_neg hfits]
    rfl

end SignalStub.Settings
