import SignalStub.Number.Binary64
import SignalStub.Number.Integer
import SignalStub.Proofs.Outcome

/-! # Integers read and written

    The reader of signed 64-bit integers goes from digit to digit and stops as soon as the value
    leaves the range. It succeeds exactly on a sign and digits whose value lies in the range, because
    a value never shrinks while digits are added to it.

    The text of an integer is such a sign with digits. So it is read back if the integer fits, and
    refused by this reader if it does not.
-/

namespace SignalStub.Number

open Binary64

/-! ## Digits -/

/-- At least one digit, and nothing else. -/
def IsDigits (cs : List Char) : Prop :=
  cs ≠ [] ∧ ∀ c ∈ cs, c.isDigit = true

instance : DecidablePred IsDigits := fun cs =>
  inferInstanceAs (Decidable (cs ≠ [] ∧ ∀ c ∈ cs, c.isDigit = true))

/-- A value with one digit more behind it. -/
def pushDigit (value : Nat) (c : Char) : Nat :=
  10 * value + (c.toNat - 48)

theorem digitsValue_eq (cs : List Char) : digitsValue cs = cs.foldl pushDigit 0 := rfl

/-- A value never shrinks while digits are added. -/
theorem le_foldl_pushDigit (cs : List Char) (value : Nat) : value ≤ cs.foldl pushDigit value := by
  induction cs generalizing value with
  | nil => exact Nat.le_refl value
  | cons c cs ih =>
    have hpush : value ≤ pushDigit value c := by
      unfold pushDigit
      omega
    exact Nat.le_trans hpush (ih _)

theorem isDigits_toDigits (n : Nat) : IsDigits (Nat.toDigits 10 n) := by
  refine ⟨Nat.toDigits_ne_nil, ?_⟩
  intro c hc
  exact Nat.isDigit_of_mem_toDigits (by omega) (by omega) hc

theorem digitsValue_toDigits (n : Nat) : digitsValue (Nat.toDigits 10 n) = n :=
  Nat.ofDigitChars_ten_toDigits

/-- The codes of the digits. -/
theorem toNat_of_isDigit {c : Char} (h : c.isDigit = true) : 48 ≤ c.toNat ∧ c.toNat ≤ 57 := by
  have hbounds : (decide (c.val ≥ 48) && decide (c.val ≤ 57)) = true := h
  obtain ⟨hlow, hhigh⟩ : c.val ≥ 48 ∧ c.val ≤ 57 := by simpa using hbounds
  exact ⟨UInt32.le_iff_toNat_le.mp hlow, UInt32.le_iff_toNat_le.mp hhigh⟩

/-! ## Signs -/

/-- The integer of a sign and a magnitude. -/
def signed (negative : Bool) (magnitude : Nat) : Int :=
  if negative then -(magnitude : Int) else magnitude

theorem signed_natAbs (n : Int) : signed (decide (n < 0)) n.natAbs = n := by
  unfold signed
  by_cases hn : n < 0
  · simp only [hn, decide_true, if_true]
    omega
  · simp only [hn, decide_false, Bool.false_eq_true, if_false]
    omega

theorem splitSign_of_unsigned {c : Char} (hminus : c ≠ '-') (hplus : c ≠ '+') (cs : List Char) :
    splitSign (c :: cs) = (false, c :: cs) := by
  unfold splitSign
  split
  next h => exact absurd (List.cons.inj h).1 hminus
  next h => exact absurd (List.cons.inj h).1 hplus
  next => rfl

/-- Digits have no sign. -/
theorem splitSign_of_isDigits {cs : List Char} (h : IsDigits cs) : splitSign cs = (false, cs) := by
  obtain ⟨hnonempty, hdigits⟩ := h
  obtain ⟨c, rest, rfl⟩ := List.exists_cons_of_ne_nil hnonempty
  have hbounds := toNat_of_isDigit (hdigits c List.mem_cons_self)
  apply splitSign_of_unsigned
  · rintro rfl
    exact absurd hbounds.1 (by decide)
  · rintro rfl
    exact absurd hbounds.1 (by decide)

/-! ## Reading -/

/-- The digits are read on from a value exactly if the limit is kept to. It is kept to at the end
    only if it was kept to all the way. -/
theorem readDigits_eq_ok_iff {limit : Nat} {past : IntegerFault} {cs : List Char} {value n : Nat}
    (hvalue : value ≤ limit) :
    readDigits limit past value cs = .ok n ↔
      (∀ c ∈ cs, c.isDigit = true) ∧ cs.foldl pushDigit value = n ∧ n ≤ limit := by
  induction cs generalizing value with
  | nil =>
    simp only [readDigits, Except.ok.injEq, List.foldl_nil]
    constructor
    · rintro rfl
      exact ⟨by simp, rfl, hvalue⟩
    · rintro ⟨-, hn, -⟩
      exact hn
  | cons c cs ih =>
    by_cases hc : c.isDigit = true
    · have hdigit : digit? c = some (c.toNat - 48) := if_pos hc
      rw [readDigits, hdigit]
      show (if limit < pushDigit value c then .error past
        else readDigits limit past (pushDigit value c) cs) = .ok n ↔ _
      by_cases hpast : limit < pushDigit value c
      · have hbound := le_foldl_pushDigit cs (pushDigit value c)
        rw [if_pos hpast, List.foldl_cons]
        constructor
        · intro herror
          cases herror
        · rintro ⟨-, hn, hlimit⟩
          omega
      · rw [if_neg hpast, List.foldl_cons, ih (by omega)]
        simp [hc]
    · have hdigit : digit? c = none := if_neg hc
      rw [readDigits, hdigit]
      constructor
      · intro herror
        cases herror
      · rintro ⟨hall, -⟩
        exact absurd (hall c List.mem_cons_self) hc

theorem readMagnitude_eq_ok_iff {limit : Nat} {past : IntegerFault} {cs : List Char} {n : Nat} :
    readMagnitude limit past cs = .ok n ↔ IsDigits cs ∧ digitsValue cs = n ∧ n ≤ limit := by
  cases cs with
  | nil =>
    constructor
    · intro herror
      cases herror
    · rintro ⟨⟨hempty, -⟩, -⟩
      exact absurd rfl hempty
  | cons c cs =>
    have hread : readDigits limit past 0 (c :: cs) = .ok n ↔ _ :=
      readDigits_eq_ok_iff (Nat.zero_le limit)
    refine hread.trans ?_
    simp [IsDigits, digitsValue_eq]

/-- An integer fits a signed 64-bit word. -/
def FitsInt64 (n : Int) : Prop :=
  -9223372036854775808 ≤ n ∧ n ≤ 9223372036854775807

instance : DecidablePred FitsInt64 := fun n =>
  inferInstanceAs (Decidable (-9223372036854775808 ≤ n ∧ n ≤ 9223372036854775807))

/-- The largest magnitude behind a sign. -/
def int64Limit : Bool → Nat
  | true => UInt64.size / 2
  | false => UInt64.size / 2 - 1

/-- The fault of a magnitude that is larger. -/
def int64Past : Bool → IntegerFault
  | true => .tooSmall
  | false => .tooLarge

theorem le_int64Limit_iff (negative : Bool) (m : Nat) :
    m ≤ int64Limit negative ↔ FitsInt64 (signed negative m) := by
  cases negative with
  | false =>
    simp only [int64Limit, UInt64.size, FitsInt64, signed, Bool.false_eq_true, if_false]
    omega
  | true =>
    simp only [int64Limit, UInt64.size, FitsInt64, signed, if_true]
    omega

/-- An integer is the magnitude behind its sign. -/
theorem readInt64_eq (c : Char) (cs : List Char) :
    readInt64 (c :: cs) =
      (readMagnitude (int64Limit (splitSign (c :: cs)).1) (int64Past (splitSign (c :: cs)).1)
        (splitSign (c :: cs)).2).map (signed (splitSign (c :: cs)).1) := by
  by_cases hminus : c = '-'
  · subst hminus
    simp only [readInt64, splitSign, int64Limit, int64Past]
    cases readMagnitude (UInt64.size / 2) .tooSmall cs <;> rfl
  · by_cases hplus : c = '+'
    · subst hplus
      simp only [readInt64, splitSign, int64Limit, int64Past]
      cases readMagnitude (UInt64.size / 2 - 1) .tooLarge cs <;> rfl
    · rw [splitSign_of_unsigned hminus hplus]
      unfold readInt64
      split
      next h => cases h
      next h => exact absurd (List.cons.inj h).1 hminus
      next h => exact absurd (List.cons.inj h).1 hplus
      next =>
        simp only [int64Limit, int64Past]
        cases readMagnitude (UInt64.size / 2 - 1) .tooLarge (c :: cs) <;> rfl

/-- An integer is read exactly from a sign and digits whose value fits. -/
theorem readInt64_eq_ok_iff (cs : List Char) (n : Int) :
    readInt64 cs = .ok n ↔
      IsDigits (splitSign cs).2 ∧ n = signed (splitSign cs).1 (digitsValue (splitSign cs).2) ∧
        FitsInt64 n := by
  cases cs with
  | nil =>
    constructor
    · intro herror
      cases herror
    · rintro ⟨⟨hempty, -⟩, -⟩
      exact absurd rfl hempty
  | cons c cs =>
    rw [readInt64_eq]
    generalize splitSign (c :: cs) = split
    obtain ⟨negative, digits⟩ := split
    dsimp only
    constructor
    · intro hread
      obtain ⟨m, hmagnitude, rfl⟩ := map_eq_ok_iff.mp hread
      obtain ⟨hdigits, rfl, hlimit⟩ := readMagnitude_eq_ok_iff.mp hmagnitude
      exact ⟨hdigits, rfl, (le_int64Limit_iff negative _).mp hlimit⟩
    · rintro ⟨hdigits, rfl, hfits⟩
      have hlimit := (le_int64Limit_iff negative _).mpr hfits
      exact map_eq_ok_iff.mpr ⟨_, readMagnitude_eq_ok_iff.mpr ⟨hdigits, rfl, hlimit⟩, rfl⟩

/-! ## Writing -/

theorem splitSign_integerText (n : Int) :
    splitSign (integerText n).toList = (decide (n < 0), Nat.toDigits 10 n.natAbs) := by
  cases n with
  | ofNat n =>
    have htext : (integerText (.ofNat n)).toList = Nat.toDigits 10 n := Nat.toList_repr
    have hsign : decide (Int.ofNat n < 0) = false :=
      decide_eq_false (Int.not_lt.mpr (Int.natCast_nonneg n))
    rw [htext, hsign, splitSign_of_isDigits (isDigits_toDigits n)]
    rfl
  | negSucc n =>
    have htext : (integerText (.negSucc n)).toList = '-' :: Nat.toDigits 10 (n + 1) := by
      unfold integerText
      rw [String.toList_append, Nat.toList_repr]
      rfl
    have hsign : decide (Int.negSucc n < 0) = true := decide_eq_true (by omega)
    rw [htext, hsign]
    rfl

/-- The text of an integer is read back exactly if the integer fits. -/
theorem readInt64_integerText (n m : Int) :
    readInt64 (integerText n).toList = .ok m ↔ m = n ∧ FitsInt64 n := by
  rw [readInt64_eq_ok_iff, splitSign_integerText, digitsValue_toDigits, signed_natAbs]
  constructor
  · rintro ⟨-, rfl, hfits⟩
    exact ⟨rfl, hfits⟩
  · rintro ⟨rfl, hfits⟩
    exact ⟨isDigits_toDigits _, rfl, hfits⟩

end SignalStub.Number
