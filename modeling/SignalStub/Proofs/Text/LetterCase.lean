import SignalStub.Text.LetterCase

/-! # What lower case leaves alone

    Two lower cases are in use: one for plain letters, character by character, and one for whole
    texts. Neither touches a character that comes before the letters, so a text with a digit, a
    point or a slash in it has the same character in lower case too, and is never a word.

    On ASCII the two are the same. No character beyond ASCII becomes one of ASCII, but for the sign
    of the kelvin, whose lower case is a plain `k`. So a text whose lower case is ASCII without a
    `k` was ASCII itself, and the plain lower case is all there is to its letter case.
-/

namespace SignalStub.Text

/-! ## Characters -/

/-- Lower case changes letters alone, and into letters. -/
theorem toLower_cases (c : Char) :
    c.toLower = c ∨ (c.isAlpha = true ∧ c.toLower.isAlpha = true) := by
  by_cases h : c.val ≥ 'A'.val ∧ c.val ≤ 'Z'.val
  · have hlow : 65 ≤ c.val.toNat := h.1
    have hhigh : c.val.toNat ≤ 90 := h.2
    have hval : c.toLower.val = c.val + 32 := congrArg Char.val (dif_pos h)
    have hsum : c.toLower.val.toNat = c.val.toNat + 32 := by
      rw [hval, UInt32.toNat_add]
      show (c.val.toNat + 32) % 4294967296 = c.val.toNat + 32
      omega
    have hfirst : c.toLower.val ≥ 97 := by
      show 97 ≤ c.toLower.val.toNat
      omega
    have hlast : c.toLower.val ≤ 122 := by
      show c.toLower.val.toNat ≤ 122
      omega
    have hupper : c.isUpper = true := decide_eq_true h
    have hlower : c.toLower.isLower = true :=
      Bool.and_eq_true_iff.mpr ⟨decide_eq_true hfirst, decide_eq_true hlast⟩
    exact .inr ⟨Bool.or_eq_true_iff.mpr (.inl hupper), Bool.or_eq_true_iff.mpr (.inr hlower)⟩
  · exact .inl (dif_neg h)

/-- A character that is no letter is the lower case of itself alone. -/
theorem eq_of_toLower {c d : Char} (hd : d.isAlpha = false) (h : c.toLower = d) : c = d := by
  rcases toLower_cases c with hsame | ⟨-, halpha⟩
  · exact hsame.symm.trans h
  · rw [h, hd] at halpha
    cases halpha

/-- Lower case makes letters of letters only. -/
theorem isAlpha_of_toLower {c : Char} (h : c.toLower.isAlpha = true) : c.isAlpha = true := by
  rcases toLower_cases c with hsame | ⟨halpha, -⟩
  · rwa [hsame] at h
  · exact halpha

/-- The codes of plain letters. -/
theorem bounds_of_isAlpha {c : Char} (h : c.isAlpha = true) : 65 ≤ c.toNat ∧ c.toNat ≤ 122 := by
  rcases Bool.or_eq_true_iff.mp h with hupper | hlower
  · have hbounds : c.val ≥ 'A'.val ∧ c.val ≤ 'Z'.val := of_decide_eq_true hupper
    have hlow : 65 ≤ c.toNat := UInt32.le_iff_toNat_le.mp hbounds.1
    have hhigh : c.toNat ≤ 90 := UInt32.le_iff_toNat_le.mp hbounds.2
    omega
  · have hbounds : (decide (c.val ≥ 97) && decide (c.val ≤ 122)) = true := hlower
    obtain ⟨hfirst, hlast⟩ := Bool.and_eq_true_iff.mp hbounds
    have hlow : 97 ≤ c.toNat :=
      UInt32.le_iff_toNat_le.mp (show (97 : UInt32) ≤ c.val from of_decide_eq_true hfirst)
    have hhigh : c.toNat ≤ 122 :=
      UInt32.le_iff_toNat_le.mp (show c.val ≤ (122 : UInt32) from of_decide_eq_true hlast)
    omega

/-- The codes of letters lie behind those of digits, signs and slashes. -/
theorem le_toNat_of_isAlpha {c : Char} (h : c.isAlpha = true) : 65 ≤ c.toNat :=
  (bounds_of_isAlpha h).1

/-- Plain letters are ASCII. -/
theorem ascii_of_isAlpha {c : Char} (h : c.isAlpha = true) : c.toNat < 128 := by
  have hbounds := bounds_of_isAlpha h
  omega

/-- What holds of the first 128 codes holds of every ASCII character. -/
theorem forall_ascii (p : Char → Prop) (h : ∀ code < 128, p (Char.ofNat code)) {c : Char}
    (hc : c.toNat < 128) : p c := by
  have hcode := h c.toNat hc
  rwa [Char.ofNat_toNat] at hcode

theorem toNat_ofNat {code : Nat} (h : code.isValidChar) : (Char.ofNat code).toNat = code := by
  rw [Char.ofNat, dif_pos h]
  rfl

theorem toLower_toLower (c : Char) : c.toLower.toLower = c.toLower := by
  rcases toLower_cases c with hsame | ⟨halpha, -⟩
  · rw [hsame, hsame]
  · exact forall_ascii (fun c => c.toLower.toLower = c.toLower) (by decide)
      (ascii_of_isAlpha halpha)

/-- Lower case changes letters alone. -/
theorem toLower_of_not_isAlpha {c : Char} (h : c.isAlpha = false) : c.toLower = c := by
  rcases toLower_cases c with hsame | ⟨halpha, -⟩
  · exact hsame
  · rw [h] at halpha
    cases halpha

/-! ## Texts -/

/-- No run of the table begins before the capital letters. -/
theorem le_first_of_mem_lowercaseRuns : ∀ run ∈ lowercaseRuns, 65 ≤ run.first := by
  have hall : lowercaseRuns.all (fun run => decide (65 ≤ run.first)) = true := by decide
  intro run hrun
  simpa using List.all_eq_true.mp hall run hrun

theorem lowerChar_of_lt {c : Char} (h : c.toNat < 65) : lowerChar c = [c] := by
  have hdotted : c ≠ '\u0130' := by
    rintro rfl
    exact absurd h (by decide)
  have hnone : lowercaseRuns.findSome? (·.lower? c.toNat) = none := by
    rw [List.findSome?_eq_none_iff]
    intro run hrun
    have hfirst := le_first_of_mem_lowercaseRuns run hrun
    have hout : decide (run.first ≤ c.toNat) = false := decide_eq_false (by omega)
    simp [LowercaseRun.lower?, hout]
  unfold lowerChar
  rw [if_neg hdotted, hnone]

theorem mem_lowerAfter {c : Char} (hc : c.toNat < 65) {cs : List Char} (h : c ∈ cs)
    (before : List Char) : c ∈ lowerAfter before cs := by
  induction cs generalizing before with
  | nil => cases h
  | cons first rest ih =>
    unfold lowerAfter
    rcases List.mem_cons.mp h with rfl | hrest
    · have hsigma : c ≠ '\u03a3' := by
        rintro rfl
        exact absurd hc (by decide)
      rw [if_neg hsigma, lowerChar_of_lt hc]
      exact List.mem_cons_self
    · exact List.mem_append_right _ (ih hrest _)

/-- A character before the letters stays in a text. -/
theorem mem_lowercase {s : String} {c : Char} (hc : c.toNat < 65) (h : c ∈ s.toList) :
    c ∈ (lowercase s).toList := by
  unfold lowercase
  rw [String.toList_ofList]
  exact mem_lowerAfter hc h []

/-! ## Plain texts -/

/-- A text of ASCII characters without the letter that is not of ASCII alone. -/
def IsPlainText (cs : List Char) : Prop :=
  ∀ c ∈ cs, c.toNat < 128 ∧ c.toLower ≠ 'k'

theorem isPlainText_of_all {cs : List Char}
    (h : cs.all (fun c => decide (c.toNat < 128 ∧ c.toLower ≠ 'k')) = true) : IsPlainText cs :=
  fun c hc => of_decide_eq_true (List.all_eq_true.mp h c hc)

/-- The run of the plain capital letters. -/
def plainRun : LowercaseRun := ⟨0x41, 0x5a, 1, 32⟩

/-- Of all runs only the first is of ASCII. -/
theorem findSome?_lower_of_ascii {code : Nat} (h : code < 128) :
    lowercaseRuns.findSome? (·.lower? code) = plainRun.lower? code := by
  have hall : lowercaseRuns.tail.all (fun run => decide (128 ≤ run.first)) = true := by decide
  have hrest : lowercaseRuns.tail.findSome? (·.lower? code) = none := by
    rw [List.findSome?_eq_none_iff]
    intro run hrun
    have hfirst : 128 ≤ run.first := of_decide_eq_true (List.all_eq_true.mp hall run hrun)
    have hout : decide (run.first ≤ code) = false := decide_eq_false (by omega)
    simp [LowercaseRun.lower?, hout]
  have hruns : lowercaseRuns = plainRun :: lowercaseRuns.tail := rfl
  rw [hruns, List.findSome?_cons, hrest]
  cases plainRun.lower? code <;> rfl

/-- On ASCII the table of lower case is the lower case of plain letters. -/
theorem lowerChar_of_ascii {c : Char} (h : c.toNat < 128) : lowerChar c = [c.toLower] := by
  have hdotted : c ≠ '\u0130' := by
    rintro rfl
    exact absurd h (by decide)
  have hplain : ((plainRun.lower? c.toNat).map Char.ofNat).getD c = c.toLower :=
    forall_ascii (fun c => ((plainRun.lower? c.toNat).map Char.ofNat).getD c = c.toLower)
      (by decide) h
  unfold lowerChar
  rw [if_neg hdotted, findSome?_lower_of_ascii h, ← hplain]
  cases plainRun.lower? c.toNat <;> rfl

/-- A run of the table that leads to characters beyond ASCII. -/
def LowercaseRun.LeadsBeyond (run : LowercaseRun) : Prop :=
  128 ≤ run.first + run.shift ∧
    (run.last + run.shift < 0xd800 ∨
      0xdfff < run.first + run.shift ∧ run.last + run.shift < 0x110000)

instance : DecidablePred LowercaseRun.LeadsBeyond := fun run =>
  inferInstanceAs (Decidable (128 ≤ run.first + run.shift ∧
    (run.last + run.shift < 0xd800 ∨
      0xdfff < run.first + run.shift ∧ run.last + run.shift < 0x110000)))

/-- Every run either is of ASCII, or leads beyond it, or is the one of the sign of the kelvin. -/
theorem lowercaseRuns_cases : ∀ run ∈ lowercaseRuns, run.last < 128 ∨ run.LeadsBeyond ∨
    run.first = 0x212a ∧ run.last = 0x212a ∧ run.shift = -8383 := by
  have hall : lowercaseRuns.all (fun run => decide (run.last < 128 ∨ run.LeadsBeyond ∨
      run.first = 0x212a ∧ run.last = 0x212a ∧ run.shift = -8383)) = true := by decide +kernel
  intro run hrun
  exact of_decide_eq_true (List.all_eq_true.mp hall run hrun)

/-- The lower case of a character beyond ASCII is not plain. -/
theorem exists_mem_lowerChar {c : Char} (h : 128 ≤ c.toNat) :
    ∃ d ∈ lowerChar c, 128 ≤ d.toNat ∨ d = 'k' := by
  unfold lowerChar
  split
  next => exact ⟨'\u0307', by simp, .inl (by decide)⟩
  next =>
    split
    next code hcode =>
      obtain ⟨run, hrun, hlower⟩ := List.exists_of_findSome?_eq_some hcode
      obtain ⟨hrange, hshift⟩ := Option.ite_none_right_eq_some.mp hlower
      obtain rfl := Option.some.inj hshift
      obtain ⟨⟨hfirst, hlast⟩, -⟩ : (run.first ≤ c.toNat ∧ c.toNat ≤ run.last) ∧ _ := by
        simpa using hrange
      refine ⟨_, List.mem_singleton_self _, ?_⟩
      rcases lowercaseRuns_cases run hrun with hascii | ⟨hbeyond, hvalid⟩ | ⟨hkelvin, hend, hdown⟩
      · omega
      · have hcode : ((c.toNat : Int) + run.shift).toNat.isValidChar := by
          unfold Nat.isValidChar
          omega
        rw [toNat_ofNat hcode]
        exact .inl (by omega)
      · have hsign : c.toNat = 0x212a := by omega
        rw [hsign, hdown]
        exact .inr (by decide)
    next => exact ⟨c, List.mem_singleton_self c, .inl h⟩

theorem lowerAfter_of_ascii {cs : List Char} (h : ∀ c ∈ cs, c.toNat < 128) (before : List Char) :
    lowerAfter before cs = cs.map Char.toLower := by
  induction cs generalizing before with
  | nil => rfl
  | cons c cs ih =>
    obtain ⟨hc, hcs⟩ := List.forall_mem_cons.mp h
    have hsigma : c ≠ '\u03a3' := by
      rintro rfl
      exact absurd hc (by decide)
    rw [lowerAfter, if_neg hsigma, lowerChar_of_ascii hc, ih hcs]
    rfl

/-- A text whose lower case is plain was ASCII. -/
theorem ascii_of_lowerAfter {before cs : List Char} (h : IsPlainText (lowerAfter before cs)) :
    ∀ c ∈ cs, c.toNat < 128 := by
  induction cs generalizing before with
  | nil => simp
  | cons c cs ih =>
    unfold lowerAfter at h
    obtain ⟨hfirst, hrest⟩ := List.forall_mem_append.mp h
    refine List.forall_mem_cons.mpr ⟨?_, ih hrest⟩
    by_cases hsigma : c = '\u03a3'
    -- both forms of a small sigma are beyond ASCII
    · rw [if_pos hsigma] at hfirst
      have hlower := (hfirst _ List.mem_cons_self).1
      unfold lowerSigma at hlower
      split at hlower
      · exact absurd hlower (by decide)
      · exact absurd hlower (by decide)
    · rw [if_neg hsigma] at hfirst
      by_cases hc : c.toNat < 128
      · exact hc
      · obtain ⟨d, hd, hforeign⟩ := exists_mem_lowerChar (Nat.not_lt.mp hc)
        obtain ⟨hascii, hplain⟩ := hfirst d hd
        rcases hforeign with hbeyond | rfl
        · omega
        · exact absurd rfl hplain

section Plain
variable {s : String}

theorem lowercase_of_ascii (h : ∀ c ∈ s.toList, c.toNat < 128) :
    (lowercase s).toList = s.toList.map Char.toLower := by
  rw [lowercase, String.toList_ofList, lowerAfter_of_ascii h]

theorem IsPlainText.lowercase_eq (h : IsPlainText s.toList) :
    (lowercase s).toList = s.toList.map Char.toLower :=
  lowercase_of_ascii fun c hc => (h c hc).1

theorem ascii_toLower_iff (c : Char) : c.toLower.toNat < 128 ↔ c.toNat < 128 := by
  rcases toLower_cases c with hsame | ⟨halpha, hlower⟩
  · rw [hsame]
  · exact iff_of_true (ascii_of_isAlpha hlower) (ascii_of_isAlpha halpha)

theorem isPlainText_map_iff (cs : List Char) :
    IsPlainText (cs.map Char.toLower) ↔ IsPlainText cs := by
  unfold IsPlainText
  simp only [List.forall_mem_map, toLower_toLower, ascii_toLower_iff]

/-- A text is plain exactly if its lower case is. -/
theorem isPlainText_lowercase_iff : IsPlainText (lowercase s).toList ↔ IsPlainText s.toList := by
  constructor
  · intro h
    have hascii : ∀ c ∈ s.toList, c.toNat < 128 := by
      rw [lowercase, String.toList_ofList] at h
      exact ascii_of_lowerAfter h
    rw [lowercase_of_ascii hascii] at h
    exact (isPlainText_map_iff _).mp h
  · intro h
    rw [h.lowercase_eq]
    exact (isPlainText_map_iff _).mpr h

/-- A plain word is the lower case of its spellings in plain letters, and of nothing else. -/
theorem lowercase_eq_iff {word : String} (hword : IsPlainText word.toList) :
    lowercase s = word ↔ String.ofList (s.toList.map Char.toLower) = word := by
  constructor
  · rintro rfl
    have hs := isPlainText_lowercase_iff.mp hword
    rw [← hs.lowercase_eq, String.ofList_toList]
  · rintro rfl
    rw [String.toList_ofList, isPlainText_map_iff] at hword
    rw [← hword.lowercase_eq, String.ofList_toList]

/-- A text with the lower case of a plain text has the same plain letters. -/
theorem map_toLower_eq {t : String} (hs : IsPlainText s.toList) (h : lowercase t = lowercase s) :
    t.toList.map Char.toLower = s.toList.map Char.toLower := by
  have ht : IsPlainText t.toList := by
    rw [← isPlainText_lowercase_iff, h]
    exact isPlainText_lowercase_iff.mpr hs
  rw [← ht.lowercase_eq, ← hs.lowercase_eq, h]

end Plain

end SignalStub.Text
