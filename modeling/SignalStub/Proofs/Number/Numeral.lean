import SignalStub.Proofs.Number.Integer
import SignalStub.Proofs.Text.LetterCase

/-! # The numerals of doubles

    A numeral is a sign or none, digits with a point somewhere, and perhaps an exponent. The words
    for the infinities and for what is not a number count as numerals too, in any letter case.

    The grammar is stated as a relation between a text and the double that it stands for, piece by
    piece, and the reader of doubles accepts exactly what the grammar derives. Digits end where the
    next piece begins, because no piece behind them begins with a digit.
-/

namespace SignalStub.Number

open Binary64

/-! ## The grammar -/

/-- A sign or none, and whether it is negative. -/
inductive IsSign : List Char → Bool → Prop
  | absent : IsSign [] false
  | plus : IsSign ['+'] false
  | minus : IsSign ['-'] true

/-- The exponent part of a numeral, with its value. -/
inductive IsExponent : List Char → Int → Prop
  | absent : IsExponent [] 0
  | present {mark : Char} {sign digits : List Char} {negative : Bool} :
    mark = 'e' ∨ mark = 'E' → IsSign sign negative → IsDigits digits →
      IsExponent (mark :: (sign ++ digits)) (signed negative (digitsValue digits))

/-- A numeral without its sign. It stands for the digits times a power of ten. -/
inductive IsDecimal : List Char → Nat → Int → Prop
  | whole {digits exponent : List Char} {value : Int} :
    IsDigits digits → IsExponent exponent value →
      IsDecimal (digits ++ exponent) (digitsValue digits) value
  | pointed {whole fraction exponent : List Char} {value : Int} :
    IsDigits (whole ++ fraction) → IsExponent exponent value →
      IsDecimal (whole ++ '.' :: (fraction ++ exponent)) (digitsValue (whole ++ fraction))
        (value - fraction.length)

/-- A text in any letter case of a word. -/
def IsSpelling (word : String) (cs : List Char) : Prop :=
  String.ofList (cs.map Char.toLower) = word

/-- A text that stands for a double. -/
inductive Denotes : List Char → Binary64 → Prop
  | decimal {sign body : List Char} {negative : Bool} {digits : Nat} {exponent : Int} :
    IsSign sign negative → IsDecimal body digits exponent →
      Denotes (sign ++ body) (ofDecimal negative digits exponent)
  | infinite {sign word : List Char} {negative : Bool} :
    IsSign sign negative → IsSpelling "inf" word ∨ IsSpelling "infinity" word →
      Denotes (sign ++ word) (.infinite negative)
  | nan {sign word : List Char} {negative : Bool} :
    IsSign sign negative → IsSpelling "nan" word → Denotes (sign ++ word) .nan

/-- A text that stands for some double. -/
def IsNumeral (cs : List Char) : Prop :=
  ∃ x, Denotes cs x

/-! ## Where pieces begin -/

/-- No digit stands at the beginning. -/
def NoDigitFirst (cs : List Char) : Prop :=
  ∀ c rest, cs = c :: rest → c.isDigit = false

theorem takeWhile_isDigit_append {digits rest : List Char}
    (hdigits : ∀ c ∈ digits, c.isDigit = true) (hrest : NoDigitFirst rest) :
    (digits ++ rest).takeWhile Char.isDigit = digits := by
  rw [List.takeWhile_append_of_pos hdigits]
  cases rest with
  | nil => simp
  | cons c rest => simp [hrest c rest rfl]

theorem dropWhile_isDigit_append {digits rest : List Char}
    (hdigits : ∀ c ∈ digits, c.isDigit = true) (hrest : NoDigitFirst rest) :
    (digits ++ rest).dropWhile Char.isDigit = rest := by
  rw [List.dropWhile_append_of_pos hdigits]
  cases rest with
  | nil => rfl
  | cons c rest => simp [hrest c rest rfl]

theorem noDigitFirst_dropWhile (cs : List Char) : NoDigitFirst (cs.dropWhile Char.isDigit) := by
  intro c rest h
  have hhead := List.head?_dropWhile_not Char.isDigit cs
  rw [h] at hhead
  simpa using hhead

theorem IsExponent.noDigitFirst {cs : List Char} {value : Int} (h : IsExponent cs value) :
    NoDigitFirst cs := by
  intro c rest hcs
  cases h with
  | absent => cases hcs
  | present hmark _ _ =>
    obtain ⟨rfl, -⟩ := List.cons.inj hcs
    rcases hmark with rfl | rfl <;> decide

/-- An exponent begins with no point either. -/
theorem IsExponent.ne_point {cs rest : List Char} {value : Int} (h : IsExponent cs value) :
    cs ≠ '.' :: rest := by
  intro hcs
  cases h with
  | absent => cases hcs
  | present hmark _ _ =>
    obtain ⟨rfl, -⟩ := List.cons.inj hcs
    rcases hmark with hmark | hmark <;> exact absurd hmark (by decide)

/-- A text without a sign of its own keeps the sign that is put in front of it. -/
theorem splitSign_append {sign cs : List Char} {negative : Bool} (h : IsSign sign negative)
    (hcs : splitSign cs = (false, cs)) : splitSign (sign ++ cs) = (negative, cs) := by
  cases h with
  | absent => exact hcs
  | plus => rfl
  | minus => rfl

/-- A text is its sign with the rest behind it. -/
theorem exists_isSign (cs : List Char) :
    ∃ sign, IsSign sign (splitSign cs).1 ∧ cs = sign ++ (splitSign cs).2 := by
  unfold splitSign
  split
  next rest => exact ⟨['-'], .minus, rfl⟩
  next rest => exact ⟨['+'], .plus, rfl⟩
  next => exact ⟨[], .absent, rfl⟩

/-! ## Reading the pieces -/

theorem readExponent?_cons (mark : Char) (cs : List Char) :
    readExponent? (mark :: cs) =
      if (mark = 'e' ∨ mark = 'E') ∧ IsDigits (splitSign cs).2 then
        some (signed (splitSign cs).1 (digitsValue (splitSign cs).2))
      else none := by
  unfold readExponent?
  dsimp only
  generalize splitSign cs = parts
  obtain ⟨negative, digits⟩ := parts
  have hcond : ((decide (mark = 'e') || decide (mark = 'E')) && !digits.isEmpty &&
      digits.all Char.isDigit) = true ↔ (mark = 'e' ∨ mark = 'E') ∧ IsDigits digits := by
    simp [IsDigits, and_assoc]
  simp only [hcond]
  rfl

theorem readExponent?_eq_some_iff (cs : List Char) (value : Int) :
    readExponent? cs = some value ↔ IsExponent cs value := by
  constructor
  · intro hread
    cases cs with
    | nil =>
      obtain rfl := Option.some.inj hread
      exact .absent
    | cons mark cs =>
      obtain ⟨sign, hsign, hcs⟩ := exists_isSign cs
      rw [readExponent?_cons] at hread
      by_cases hcond : (mark = 'e' ∨ mark = 'E') ∧ IsDigits (splitSign cs).2
      · rw [if_pos hcond] at hread
        obtain rfl := Option.some.inj hread
        have hpresent := IsExponent.present hcond.1 hsign hcond.2
        rwa [← hcs] at hpresent
      · rw [if_neg hcond] at hread
        cases hread
  · intro h
    cases h with
    | absent => rfl
    | @present mark sign digits negative hmark hsign hdigits =>
      have hsplit := splitSign_append hsign (splitSign_of_isDigits hdigits)
      rw [readExponent?_cons, hsplit, if_pos ⟨hmark, hdigits⟩]

/-- The digits behind a point, if there is one, and what stands behind them. -/
def splitPoint : List Char → List Char × List Char
  | '.' :: rest => (rest.takeWhile Char.isDigit, rest.dropWhile Char.isDigit)
  | rest => ([], rest)

theorem splitPoint_of_ne {rest : List Char} (h : ∀ tail, rest ≠ '.' :: tail) :
    splitPoint rest = ([], rest) := by
  unfold splitPoint
  split
  next tail => exact absurd rfl (h tail)
  next => rfl

/-- The pieces of a numeral are split off and put together again. -/
theorem readUnsigned?_of_pieces (negative : Bool) {cs whole behind fraction rest : List Char}
    (hwhole : cs.takeWhile Char.isDigit = whole) (hbehind : cs.dropWhile Char.isDigit = behind)
    (hpoint : splitPoint behind = (fraction, rest)) :
    readUnsigned? negative cs =
      if whole ++ fraction = [] then none
      else (readExponent? rest).map fun value =>
        ofDecimal negative (digitsValue (whole ++ fraction)) (value - fraction.length) := by
  have hread : readUnsigned? negative cs =
      if (whole.isEmpty && (splitPoint behind).1.isEmpty) = true then none
      else (readExponent? (splitPoint behind).2).map fun value =>
        ofDecimal negative (digitsValue (whole ++ (splitPoint behind).1))
          (value - (splitPoint behind).1.length) := by
    unfold readUnsigned?
    rw [hwhole, hbehind]
    dsimp only
    split
    next tail => rfl
    next hother => rw [splitPoint_of_ne hother]
  rw [hread, hpoint]
  simp

/-- A numeral without a point. -/
theorem readUnsigned?_whole (negative : Bool) {digits rest : List Char}
    (hdigits : ∀ c ∈ digits, c.isDigit = true) (hrest : NoDigitFirst rest)
    (hpoint : ∀ tail, rest ≠ '.' :: tail) :
    readUnsigned? negative (digits ++ rest) =
      if digits = [] then none
      else (readExponent? rest).map fun value => ofDecimal negative (digitsValue digits) value := by
  rw [readUnsigned?_of_pieces negative (takeWhile_isDigit_append hdigits hrest)
    (dropWhile_isDigit_append hdigits hrest) (splitPoint_of_ne hpoint)]
  simp

/-- A numeral with a point. -/
theorem readUnsigned?_pointed (negative : Bool) {whole fraction rest : List Char}
    (hdigits : ∀ c ∈ whole ++ fraction, c.isDigit = true) (hrest : NoDigitFirst rest) :
    readUnsigned? negative (whole ++ '.' :: (fraction ++ rest)) =
      if whole ++ fraction = [] then none
      else (readExponent? rest).map fun value =>
        ofDecimal negative (digitsValue (whole ++ fraction)) (value - fraction.length) := by
  have hwhole : ∀ c ∈ whole, c.isDigit = true := fun c hc => hdigits c (List.mem_append_left _ hc)
  have hfraction : ∀ c ∈ fraction, c.isDigit = true :=
    fun c hc => hdigits c (List.mem_append_right _ hc)
  have hbehind : NoDigitFirst ('.' :: (fraction ++ rest)) := by
    intro c tail hcs
    obtain ⟨rfl, -⟩ := List.cons.inj hcs
    decide
  have hpoint : splitPoint ('.' :: (fraction ++ rest)) = (fraction, rest) := by
    rw [splitPoint, takeWhile_isDigit_append hfraction hrest,
      dropWhile_isDigit_append hfraction hrest]
  exact readUnsigned?_of_pieces negative (takeWhile_isDigit_append hwhole hbehind)
    (dropWhile_isDigit_append hwhole hbehind) hpoint

/-- Every text is digits with another piece behind them, and perhaps a point and digits between. -/
theorem exists_pieces (cs : List Char) :
    (∃ digits rest, cs = digits ++ rest ∧ (∀ c ∈ digits, c.isDigit = true) ∧ NoDigitFirst rest ∧
        ∀ tail, rest ≠ '.' :: tail) ∨
      ∃ whole fraction rest, cs = whole ++ '.' :: (fraction ++ rest) ∧
        (∀ c ∈ whole ++ fraction, c.isDigit = true) ∧ NoDigitFirst rest := by
  have htake : ∀ cs : List Char, ∀ c ∈ cs.takeWhile Char.isDigit, c.isDigit = true :=
    fun cs => List.all_eq_true.mp List.all_takeWhile
  have hsplit := (List.takeWhile_append_dropWhile (p := Char.isDigit) (l := cs)).symm
  by_cases hpoint : ∃ tail, cs.dropWhile Char.isDigit = '.' :: tail
  · obtain ⟨tail, htail⟩ := hpoint
    refine .inr ⟨cs.takeWhile Char.isDigit, tail.takeWhile Char.isDigit, tail.dropWhile Char.isDigit,
      ?_, ?_, noDigitFirst_dropWhile tail⟩
    · rw [List.takeWhile_append_dropWhile, ← htail]
      exact hsplit
    · intro c hc
      rcases List.mem_append.mp hc with hwhole | hfraction
      · exact htake cs c hwhole
      · exact htake tail c hfraction
  · exact .inl ⟨_, _, hsplit, htake cs, noDigitFirst_dropWhile cs,
      fun tail htail => hpoint ⟨tail, htail⟩⟩

/-- A numeral without its sign is read exactly as the grammar has it. -/
theorem readUnsigned?_eq_some_iff (negative : Bool) (cs : List Char) (x : Binary64) :
    readUnsigned? negative cs = some x ↔
      ∃ digits exponent, IsDecimal cs digits exponent ∧ x = ofDecimal negative digits exponent := by
  constructor
  · intro hread
    rcases exists_pieces cs with ⟨digits, rest, rfl, hdigits, hrest, hpoint⟩ |
      ⟨whole, fraction, rest, rfl, hdigits, hrest⟩
    · rw [readUnsigned?_whole negative hdigits hrest hpoint] at hread
      split at hread
      next => cases hread
      next hnonempty =>
        obtain ⟨value, hvalue, rfl⟩ := Option.map_eq_some_iff.mp hread
        have hexponent := (readExponent?_eq_some_iff rest value).mp hvalue
        exact ⟨_, _, .whole ⟨hnonempty, hdigits⟩ hexponent, rfl⟩
    · rw [readUnsigned?_pointed negative hdigits hrest] at hread
      split at hread
      next => cases hread
      next hnonempty =>
        obtain ⟨value, hvalue, rfl⟩ := Option.map_eq_some_iff.mp hread
        have hexponent := (readExponent?_eq_some_iff rest value).mp hvalue
        exact ⟨_, _, .pointed ⟨hnonempty, hdigits⟩ hexponent, rfl⟩
  · rintro ⟨digits, exponent, hdecimal, rfl⟩
    cases hdecimal with
    | @whole digits rest value hdigits hexponent =>
      have hread := (readExponent?_eq_some_iff rest _).mpr hexponent
      rw [readUnsigned?_whole negative hdigits.2 hexponent.noDigitFirst
        fun _ => hexponent.ne_point, if_neg hdigits.1, hread]
      rfl
    | @pointed whole fraction rest value hdigits hexponent =>
      have hread := (readExponent?_eq_some_iff rest _).mpr hexponent
      rw [readUnsigned?_pointed negative hdigits.2 hexponent.noDigitFirst, if_neg hdigits.1, hread]
      rfl

/-! ## Words -/

instance (word : String) : DecidablePred (IsSpelling word) := fun cs =>
  inferInstanceAs (Decidable (String.ofList (cs.map Char.toLower) = word))

/-- The words that count as numerals. -/
def numberWords : List String := ["inf", "infinity", "nan"]

theorem isAlpha_of_mem_numberWords {word : String} (hword : word ∈ numberWords) :
    ∀ c ∈ word.toList, c.isAlpha = true := by
  have hall : numberWords.all (fun word => word.toList.all Char.isAlpha) = true := by decide
  exact List.all_eq_true.mp (List.all_eq_true.mp hall word hword)

section Spelling
variable {word : String} {cs : List Char} (hword : word ∈ numberWords) (h : IsSpelling word cs)
include hword h

/-- A spelling of a word is letters. -/
theorem IsSpelling.isAlpha : ∀ c ∈ cs, c.isAlpha = true := by
  intro c hc
  apply Text.isAlpha_of_toLower
  apply isAlpha_of_mem_numberWords hword
  rw [← h, String.toList_ofList]
  exact List.mem_map_of_mem hc

theorem IsSpelling.first : ∃ c rest, cs = c :: rest ∧ 65 ≤ c.toNat := by
  have hnonempty : cs ≠ [] := by
    rintro rfl
    have hempty : ∀ word ∈ numberWords, word ≠ "" := by decide
    exact hempty word hword h.symm
  obtain ⟨c, rest, rfl⟩ := List.exists_cons_of_ne_nil hnonempty
  exact ⟨c, rest, rfl, Text.le_toNat_of_isAlpha (h.isAlpha hword c List.mem_cons_self)⟩

/-- A word has no sign of its own. -/
theorem IsSpelling.splitSign : splitSign cs = (false, cs) := by
  obtain ⟨c, rest, rfl, hcode⟩ := h.first hword
  apply splitSign_of_unsigned
  · rintro rfl
    exact absurd hcode (by decide)
  · rintro rfl
    exact absurd hcode (by decide)

end Spelling

/-- A numeral without its sign begins with a digit or a point. -/
theorem IsDecimal.first {cs : List Char} {digits : Nat} {exponent : Int}
    (h : IsDecimal cs digits exponent) :
    ∃ c rest, cs = c :: rest ∧ (c.isDigit = true ∨ c = '.') := by
  cases h with
  | @whole digits rest value hdigits hexponent =>
    obtain ⟨c, tail, rfl⟩ := List.exists_cons_of_ne_nil hdigits.1
    exact ⟨c, tail ++ rest, rfl, .inl (hdigits.2 c List.mem_cons_self)⟩
  | @pointed whole fraction rest value hdigits hexponent =>
    cases whole with
    | nil => exact ⟨'.', fraction ++ rest, rfl, .inr rfl⟩
    | cons c whole =>
      exact ⟨c, whole ++ '.' :: (fraction ++ rest), rfl, .inl (hdigits.2 c List.mem_cons_self)⟩

section Decimal
variable {cs : List Char} {digits : Nat} {exponent : Int} (h : IsDecimal cs digits exponent)
include h

theorem IsDecimal.splitSign : splitSign cs = (false, cs) := by
  obtain ⟨c, rest, rfl, hfirst⟩ := h.first
  have hne : ∀ sign : Char, sign.isDigit = false → sign ≠ '.' → c ≠ sign := by
    rintro sign hdigit hpoint rfl
    rcases hfirst with hfirst | hfirst
    · rw [hdigit] at hfirst
      cases hfirst
    · exact hpoint hfirst
  exact splitSign_of_unsigned (hne '-' (by decide) (by decide)) (hne '+' (by decide) (by decide)) _

/-- Digits are no word. -/
theorem IsDecimal.not_isSpelling {word : String} (hword : word ∈ numberWords) :
    ¬ IsSpelling word cs := by
  intro hspelling
  obtain ⟨c, rest, rfl, hfirst⟩ := h.first
  obtain ⟨d, tail, hcons, hcode⟩ := hspelling.first hword
  obtain ⟨rfl, rfl⟩ := List.cons.inj hcons
  rcases hfirst with hdigit | rfl
  · have hbounds := toNat_of_isDigit hdigit
    omega
  · exact absurd hcode (by decide)

end Decimal

/-! ## Reading numerals -/

theorem read?_eq (cs : List Char) :
    read? cs =
      if IsSpelling "inf" (splitSign cs).2 ∨ IsSpelling "infinity" (splitSign cs).2 then
        some (.infinite (splitSign cs).1)
      else if IsSpelling "nan" (splitSign cs).2 then some .nan
      else readUnsigned? (splitSign cs).1 (splitSign cs).2 := by
  unfold read?
  generalize splitSign cs = parts
  obtain ⟨negative, body⟩ := parts
  have hinfinite : ((decide (String.ofList (body.map Char.toLower) = "inf") ||
      decide (String.ofList (body.map Char.toLower) = "infinity")) = true) =
        (IsSpelling "inf" body ∨ IsSpelling "infinity" body) := by
    simp [IsSpelling]
  exact ite_congr hinfinite (fun _ => rfl) fun _ => ite_congr rfl (fun _ => rfl) fun _ => rfl

/-- The reader of doubles accepts exactly what the grammar derives, and gives it the same value. -/
theorem read?_eq_some_iff (cs : List Char) (x : Binary64) :
    read? cs = some x ↔ Denotes cs x := by
  constructor
  · intro hread
    obtain ⟨sign, hsign, hcs⟩ := exists_isSign cs
    rw [read?_eq] at hread
    rw [hcs]
    split at hread
    next hinfinite =>
      obtain rfl := Option.some.inj hread
      exact .infinite hsign hinfinite
    next =>
      split at hread
      next hnan =>
        obtain rfl := Option.some.inj hread
        exact .nan hsign hnan
      next =>
        obtain ⟨digits, exponent, hdecimal, rfl⟩ := (readUnsigned?_eq_some_iff _ _ _).mp hread
        exact .decimal hsign hdecimal
  · intro h
    rw [read?_eq]
    cases h with
    | @decimal sign body negative digits exponent hsign hdecimal =>
      rw [splitSign_append hsign hdecimal.splitSign]
      have hinfinite : ¬ (IsSpelling "inf" body ∨ IsSpelling "infinity" body) :=
        not_or.mpr ⟨hdecimal.not_isSpelling (by decide), hdecimal.not_isSpelling (by decide)⟩
      rw [if_neg hinfinite, if_neg (hdecimal.not_isSpelling (by decide))]
      exact (readUnsigned?_eq_some_iff _ _ _).mpr ⟨digits, exponent, hdecimal, rfl⟩
    | @infinite sign word negative hsign hword =>
      have hsplit : splitSign word = (false, word) := by
        rcases hword with hword | hword
        · exact hword.splitSign (by decide)
        · exact hword.splitSign (by decide)
      rw [splitSign_append hsign hsplit, if_pos hword]
    | @nan sign word negative hsign hword =>
      have hother : ¬ (IsSpelling "inf" word ∨ IsSpelling "infinity" word) := by
        unfold IsSpelling at hword ⊢
        rw [hword]
        decide
      rw [splitSign_append hsign (hword.splitSign (by decide)), if_neg hother, if_pos hword]

/-- A text stands for one double at most. -/
theorem Denotes.unique {cs : List Char} {x y : Binary64} (hx : Denotes cs x) (hy : Denotes cs y) :
    x = y :=
  Option.some.inj (((read?_eq_some_iff cs x).mpr hx).symm.trans ((read?_eq_some_iff cs y).mpr hy))

theorem isNumeral_iff (cs : List Char) : IsNumeral cs ↔ ∃ x, read? cs = some x :=
  exists_congr fun x => (read?_eq_some_iff cs x).symm

theorem read?_eq_none_iff (cs : List Char) : read? cs = none ↔ ¬ IsNumeral cs := by
  rw [isNumeral_iff, Option.eq_none_iff_forall_ne_some, not_exists]

/-- Digits behind a sign are a numeral. -/
theorem denotes_of_isDigits {cs : List Char} (h : IsDigits (splitSign cs).2) :
    Denotes cs (ofDecimal (splitSign cs).1 (digitsValue (splitSign cs).2) 0) := by
  obtain ⟨sign, hsign, hcs⟩ := exists_isSign cs
  have hdecimal := IsDecimal.whole h .absent
  have hdenotes := Denotes.decimal hsign hdecimal
  rwa [List.append_nil, ← hcs] at hdenotes

/-- Whatever is an integer is a numeral. -/
theorem isNumeral_of_readInt64 {cs : List Char} {n : Int} (h : readInt64 cs = .ok n) :
    IsNumeral cs := by
  obtain ⟨hdigits, -, -⟩ := (readInt64_eq_ok_iff cs n).mp h
  exact ⟨_, denotes_of_isDigits hdigits⟩

/-- The text of an integer denotes the double nearest to it. -/
theorem denotes_integerText (n : Int) :
    Denotes (integerText n).toList (ofDecimal (decide (n < 0)) n.natAbs 0) := by
  have hsplit := splitSign_integerText n
  have hdigits : IsDigits (splitSign (integerText n).toList).2 := by
    rw [hsplit]
    exact isDigits_toDigits _
  have hdenotes := denotes_of_isDigits hdigits
  rwa [hsplit, digitsValue_toDigits] at hdenotes

/-- The text of an integer has a digit in it. -/
theorem exists_isDigit_integerText (n : Int) :
    ∃ c ∈ (integerText n).toList, c.isDigit = true := by
  obtain ⟨hnonempty, hdigits⟩ := isDigits_toDigits n.natAbs
  obtain ⟨c, hc⟩ := List.exists_mem_of_ne_nil _ hnonempty
  obtain ⟨sign, -, htext⟩ := exists_isSign (integerText n).toList
  rw [splitSign_integerText] at htext
  refine ⟨c, ?_, hdigits c hc⟩
  rw [htext]
  exact List.mem_append_right sign hc

/-! ## Integers -/

/-- A text that stands for a signed 64-bit integer: a sign or none, and digits. -/
inductive IsInteger : List Char → Int → Prop
  | digits {sign digits : List Char} {negative : Bool} : IsSign sign negative → IsDigits digits →
      FitsInt64 (signed negative (digitsValue digits)) →
        IsInteger (sign ++ digits) (signed negative (digitsValue digits))

/-- The reader of integers accepts exactly the texts that stand for one. -/
theorem readInt64_eq_ok_iff_isInteger (cs : List Char) (n : Int) :
    readInt64 cs = .ok n ↔ IsInteger cs n := by
  rw [readInt64_eq_ok_iff]
  constructor
  · rintro ⟨hdigits, rfl, hfits⟩
    obtain ⟨sign, hsign, hcs⟩ := exists_isSign cs
    have hinteger := IsInteger.digits hsign hdigits hfits
    rwa [← hcs] at hinteger
  · intro h
    cases h with
    | digits hsign hdigits hfits =>
      rw [splitSign_append hsign (splitSign_of_isDigits hdigits)]
      exact ⟨hdigits, rfl, hfits⟩

end SignalStub.Number
