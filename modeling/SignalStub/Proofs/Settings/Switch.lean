import SignalStub.Proofs.Number.Caseless
import SignalStub.Proofs.Number.Zero
import SignalStub.Proofs.Settings.Reading
import SignalStub.Proofs.Settings.Slot

/-! # Switches from texts

    A switch is turned by a word or by a number. Four readers look at the text one after the other,
    for truth values, integers, doubles and plain texts, and what the first of them accepts the
    others never see. Their languages overlap in the integers, which are numerals of doubles too.

    Still no reader takes anything away from another one. The words are no numerals, and an integer
    is zero exactly if the double next to it is. So a text turns the switch by whatever way it can be
    read, in any letter case, and every other text is refused.
-/

namespace SignalStub.Settings

open Number Binary64

/-! ## Words and numbers -/

/-- The words that turn a switch on, and those that turn it off. -/
def switchWords : Bool → List String
  | true => ["true", "yes", "on"]
  | false => ["false", "no", "off"]

/-- A text turns a switch on or off: by a word in any letter case, or by a number, which is off
    exactly if it is zero. -/
inductive Turns (value : String) : Bool → Prop
  | word {on : Bool} {word : String} : word ∈ switchWords on → IsSpelling word value.toList →
      Turns value on
  | integer {n : Int} : IsInteger value.toList n → Turns value (n != 0)
  | double {x : Binary64} : Denotes value.toList x → Turns value (!x.isZero)

section Words
variable {value word : String} {on : Bool} (hword : word ∈ switchWords on)
include hword

/-- A text is a spelling of a switch word exactly if the word is its lower case. -/
theorem lowercase_eq_word_iff :
    Text.lowercase value = word ↔ IsSpelling word value.toList := by
  have hall : ∀ on, (switchWords on).all (fun word =>
      word.toList.all fun c => decide (c.toNat < 128 ∧ c.toLower ≠ 'k')) = true := by decide
  exact Text.lowercase_eq_iff (Text.isPlainText_of_all (List.all_eq_true.mp (hall on) word hword))

/-- No switch word is a numeral. -/
theorem not_isNumeral_of_word (hspelling : IsSpelling word value.toList) :
    ¬ IsNumeral value.toList := by
  have hall : ∀ on, (switchWords on).all (fun word => (Binary64.read? word.toList).isNone) = true := by
    decide
  have hnone : Binary64.read? word.toList = none :=
    Option.isNone_iff_eq_none.mp (List.all_eq_true.mp (hall on) word hword)
  rw [← read?_eq_none_iff, ← read?_map]
  rwa [← hspelling, String.toList_ofList] at hnone

end Words

/-- An integer is zero exactly if the double of the same text is. -/
theorem isZero_of_readInt64 {cs : List Char} {n : Int} {x : Binary64} (hn : readInt64 cs = .ok n)
    (hx : Denotes cs x) : (!x.isZero) = (n != 0) := by
  obtain ⟨hdigits, hvalue, -⟩ := (readInt64_eq_ok_iff cs n).mp hn
  obtain rfl := hx.unique (denotes_of_isDigits hdigits)
  have hzero := (isZero_ofDecimal (splitSign cs).1 (digitsValue (splitSign cs).2) 0).trans
    (isTiny_iff_of_nonneg _ (Int.le_refl 0))
  rw [hvalue]
  generalize digitsValue (splitSign cs).2 = magnitude at hzero ⊢
  generalize (splitSign cs).1 = negative at hzero ⊢
  by_cases hmagnitude : magnitude = 0
  · have hsigned : signed negative magnitude = 0 := by
      rw [hmagnitude]
      cases negative <;> rfl
    rw [hzero.mpr hmagnitude, hsigned]
    rfl
  · have hsigned : signed negative magnitude ≠ 0 := by
      unfold signed
      split
      · omega
      · omega
    rw [Bool.eq_false_iff.mpr (mt hzero.mp hmagnitude), bne_iff_ne.mpr hsigned]
    rfl

/-! ## Reading -/

section Reading
variable {value : String} {on : Bool}

theorem not_isTruthWord_of_isNumeral (h : IsNumeral value.toList) : ¬ IsTruthWord value := by
  intro hword
  rcases hword with hyes | hno
  · have hmem : "true" ∈ switchWords true := by decide
    exact not_isNumeral_of_word hmem ((lowercase_eq_word_iff hmem).mp hyes) h
  · have hmem : "false" ∈ switchWords false := by decide
    exact not_isNumeral_of_word hmem ((lowercase_eq_word_iff hmem).mp hno) h

/-- The words for truth values apart, the switch knows its words itself. -/
theorem switch?_of_word {word : String} (hword : word ∈ switchWords on)
    (hlower : Text.lowercase value = word) (htruth : ¬ IsTruthWord value) :
    Scalar.switch? value = some on := by
  unfold IsTruthWord at htruth
  unfold Scalar.switch?
  rw [hlower] at htruth ⊢
  cases on with
  | true =>
    rw [switchWords, List.mem_cons, List.mem_cons, List.mem_singleton] at hword
    rcases hword with rfl | rfl | rfl
    · exact absurd (.inl rfl) htruth
    · rfl
    · rfl
  | false =>
    rw [switchWords, List.mem_cons, List.mem_cons, List.mem_singleton] at hword
    rcases hword with rfl | rfl | rfl
    · exact absurd (.inr rfl) htruth
    · rfl
    · rfl

theorem lowercase_mem_of_switch? (h : Scalar.switch? value = some on) :
    Text.lowercase value ∈ switchWords on := by
  unfold Scalar.switch? at h
  dsimp only at h
  split at h
  next hon =>
    obtain rfl := Option.some.inj h
    have hlower : Text.lowercase value = "on" ∨ Text.lowercase value = "yes" := by simpa using hon
    rcases hlower with hlower | hlower
    · rw [hlower]
      decide
    · rw [hlower]
      decide
  next =>
    split at h
    next hoff =>
      obtain rfl := Option.some.inj h
      have hlower : Text.lowercase value = "off" ∨ Text.lowercase value = "no" := by
        simpa using hoff
      rcases hlower with hlower | hlower
      · rw [hlower]
        decide
      · rw [hlower]
        decide
    next => cases h

/-- A text that turns the switch is read so, whichever reader accepts it first. -/
theorem Turns.readBoolean_eq (key : String) (h : Turns value on) :
    readBoolean key (.scalar (.read value)) = .ok on := by
  cases h with
  | @word _ word hword hspelling =>
    have hlower := (lowercase_eq_word_iff hword).mpr hspelling
    have hnumeral := not_isNumeral_of_word hword hspelling
    by_cases htruth : IsTruthWord value
    -- a truth value is the word of its own side
    · rw [← hlower] at hword
      rcases htruth with hyes | hno
      · rw [hyes] at hword
        rw [(Scalar.Reads.yes hyes).read_eq]
        cases on with
        | true => rfl
        | false => exact absurd hword (by decide)
      · rw [hno] at hword
        rw [(Scalar.Reads.no hno).read_eq]
        cases on with
        | true => exact absurd hword (by decide)
        | false => rfl
    · have hread := (Scalar.Reads.text htruth hnumeral).read_eq
      have hswitch := switch?_of_word hword hlower htruth
      rw [hread, readBoolean, hswitch]
  | @integer n hinteger =>
    have hn := (readInt64_eq_ok_iff_isInteger _ n).mpr hinteger
    have htruth := not_isTruthWord_of_isNumeral (isNumeral_of_readInt64 hn)
    rw [(Scalar.Reads.integer htruth hn).read_eq]
    rfl
  | @double x hx =>
    have htruth := not_isTruthWord_of_isNumeral ⟨x, hx⟩
    by_cases hinteger : ∃ n, readInt64 value.toList = .ok n
    · obtain ⟨n, hn⟩ := hinteger
      rw [(Scalar.Reads.integer htruth hn).read_eq, isZero_of_readInt64 hn hx]
      rfl
    · rw [(Scalar.Reads.real htruth (not_exists.mp hinteger) hx).read_eq]
      rfl

/-- A text turns the switch one way at most. -/
theorem Turns.unique {other : Bool} (h : Turns value on) (h' : Turns value other) : on = other := by
  have hread := h.readBoolean_eq ""
  rw [h'.readBoolean_eq] at hread
  exact (Except.ok.inj hread).symm

/-- A text either turns the switch, or is refused and named in lower case. -/
theorem readBoolean_cases (key value : String) :
    (∃ on, Turns value on) ∨ readBoolean key (.scalar (.read value)) =
      .error ⟨key, .text (Text.lowercase value), .boolean, true⟩ := by
  have hreads := Scalar.reads_read value
  generalize Scalar.read value = scalar at hreads ⊢
  cases hreads with
  | yes hyes =>
    have hmem : "true" ∈ switchWords true := by decide
    exact .inl ⟨true, .word hmem ((lowercase_eq_word_iff hmem).mp hyes)⟩
  | no hno =>
    have hmem : "false" ∈ switchWords false := by decide
    exact .inl ⟨false, .word hmem ((lowercase_eq_word_iff hmem).mp hno)⟩
  | integer _ hn => exact .inl ⟨_, .integer ((readInt64_eq_ok_iff_isInteger _ _).mp hn)⟩
  | real _ _ hx => exact .inl ⟨_, .double hx⟩
  | text =>
    cases hswitch : Scalar.switch? value with
    | some on =>
      have hmem := lowercase_mem_of_switch? hswitch
      exact .inl ⟨on, .word hmem ((lowercase_eq_word_iff hmem).mp rfl)⟩
    | none =>
      right
      rw [readBoolean, hswitch]

/-- Letter case makes no difference to a switch. -/
theorem Turns.of_lowercase {other : String} (hlower : Text.lowercase value = Text.lowercase other)
    (h : Turns value on) : Turns other on := by
  cases h with
  | word hword hspelling =>
    rw [← lowercase_eq_word_iff hword, hlower] at hspelling
    exact .word hword ((lowercase_eq_word_iff hword).mp hspelling)
  | integer hinteger =>
    have hn := (readInt64_eq_ok_iff_isInteger _ _).mpr hinteger
    obtain ⟨x, hx⟩ := isNumeral_of_readInt64 hn
    rw [← isZero_of_readInt64 hn hx]
    exact .double ((denotes_iff_of_lowercase hlower x).mp hx)
  | double hx => exact .double ((denotes_iff_of_lowercase hlower _).mp hx)

end Reading

/-! ## The switch among the settings -/

/-- What a text for the switch makes of settings that are valid otherwise. -/
structure SwitchVerdict (env : Environment) (value : String) (rest : Settings) : Prop where
  /-- The switch is on, or off, exactly if the text turns it so. -/
  turned : ∀ on : Bool, load env = .ok { rest with useTelemetry := on } ↔ Turns value on
  /-- Every other text is refused. -/
  refused : (∀ on, ¬ Turns value on) → load env =
    .error (.field ⟨"use_telemetry", .text (Text.lowercase value), .boolean, true⟩)
  /-- No two ways to read a text turn the switch differently. -/
  once : ∀ on other : Bool, Turns value on → Turns value other → on = other
  /-- A text in another letter case has the same effect, down to the text of the fault. -/
  caseless : ∀ (other : String) (env' : Environment),
    env'.Assigns Slot.useTelemetry.key other rest → Text.lowercase other = Text.lowercase value →
      load env' = load env
  /-- A numeral turns the switch off exactly if it is at most half of the smallest double. -/
  tiny : ∀ (sign body : List Char) (negative : Bool) (digits : Nat) (exponent : Int),
    value.toList = sign ++ body → IsSign sign negative → IsDecimal body digits exponent →
      (load env = .ok { rest with useTelemetry := false } ↔ IsTiny digits exponent)

section Switch
variable {env : Environment} {value : String} {rest : Settings}
  (h : env.Assigns Slot.useTelemetry.key value rest)
include h

theorem load_of_turns {on : Bool} (hturns : Turns value on) :
    load env = .ok { rest with useTelemetry := on } :=
  load_of_assigns_ok h (by decide) (hturns.readBoolean_eq _)

theorem load_of_not_turns (hnone : ∀ on, ¬ Turns value on) :
    load env = .error (.field ⟨"use_telemetry", .text (Text.lowercase value), .boolean, true⟩) := by
  rcases readBoolean_cases "use_telemetry" value with ⟨on, hturns⟩ | hrefused
  · exact absurd hturns (hnone on)
  · exact load_of_assigns_error h hrefused

theorem load_eq_iff_turns (on : Bool) :
    load env = .ok { rest with useTelemetry := on } ↔ Turns value on := by
  constructor
  · intro hload
    by_cases hturns : ∃ other, Turns value other
    · obtain ⟨other, hother⟩ := hturns
      rw [load_of_turns h hother] at hload
      have hsame : other = on := congrArg Settings.useTelemetry (Except.ok.inj hload)
      rwa [← hsame]
    · rw [load_of_not_turns h (not_exists.mp hturns)] at hload
      cases hload
  · exact load_of_turns h

/-- Two texts with one lower case leave the same settings or the same fault. -/
theorem load_eq_of_lowercase {other : String} {env' : Environment}
    (h' : env'.Assigns Slot.useTelemetry.key other rest)
    (hlower : Text.lowercase other = Text.lowercase value) : load env' = load env := by
  by_cases hturns : ∃ on, Turns value on
  · obtain ⟨on, hon⟩ := hturns
    rw [load_of_turns h hon, load_of_turns h' (hon.of_lowercase hlower.symm)]
  · have hnone := not_exists.mp hturns
    have hnone' : ∀ on, ¬ Turns other on := fun on hon => hnone on (hon.of_lowercase hlower)
    rw [load_of_not_turns h hnone, load_of_not_turns h' hnone', hlower]

/-- A numeral turns the switch off exactly if it stands for a zero. -/
theorem load_off_iff_isZero {x : Binary64} (hx : Denotes value.toList x) :
    load env = .ok { rest with useTelemetry := false } ↔ x.isZero = true := by
  have hturns := Turns.double hx
  rw [load_eq_iff_turns h]
  constructor
  · intro hoff
    simpa using hturns.unique hoff
  · intro hzero
    rwa [hzero] at hturns

/-- A text turns the switch on or off, or is refused, whatever its letter case is. -/
theorem switch_text_turns_or_is_refused : SwitchVerdict env value rest where
  turned := load_eq_iff_turns h
  refused := load_of_not_turns h
  once := fun _ _ => Turns.unique
  caseless := by
    intro other env' h' hlower
    exact load_eq_of_lowercase h h' hlower
  tiny := by
    intro sign body negative digits exponent hvalue hsign hdecimal
    have hdenotes := Denotes.decimal hsign hdecimal
    rw [← hvalue] at hdenotes
    exact (load_off_iff_isZero h hdenotes).trans (isZero_ofDecimal negative digits exponent)

end Switch

/-- A word in mixed letter case. -/
theorem mixed_case_word_turns_switch :
    Environment.Assigns [("USE_TELEMETRY", "yEs")] Slot.useTelemetry.key "yEs" default ∧
      SwitchVerdict [("USE_TELEMETRY", "yEs")] "yEs" default ∧ Turns "yEs" true := by
  have h := Environment.assigns_alone "USE_TELEMETRY" "yEs"
    (show Text.lowercase "USE_TELEMETRY" = Slot.useTelemetry.key by decide)
  have hmem : "yes" ∈ switchWords true := by decide
  exact ⟨h, switch_text_turns_or_is_refused h, .word hmem (by decide)⟩

end SignalStub.Settings
