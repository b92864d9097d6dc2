import SignalStub.Proofs.Settings.Reading
import SignalStub.Proofs.Settings.Slot
import SignalStub.Proofs.Settings.WritePath

/-! # The language of write paths

    The check of the write path sees what was read, not what was set. A slash decides between the
    two: it stands in no number and no truth value, so a text with a slash is read as it is, and
    nothing that is written for a number or a truth value has one. A text without a slash is refused
    whatever is made of it.

    So the variable takes exactly the texts of the check, and takes them character for character.
-/

namespace SignalStub

open Settings Number

/-! ## The language -/

/-- The letters, the digits and five other characters. -/
def IsPathChar (c : Char) : Prop :=
  ('A' ≤ c ∧ c ≤ 'Z') ∨ ('a' ≤ c ∧ c ≤ 'z') ∨ ('0' ≤ c ∧ c ≤ '9') ∨ c ∈ ['.', '_', '~', '/', '-']

/-- A slash with any number of such characters behind it, which is none of the probes' paths. -/
structure IsWritePath (path : String) : Prop where
  characters : ∃ cs, path.toList = '/' :: cs ∧ ∀ c ∈ cs, IsPathChar c
  notLivez : path ≠ "/livez/"
  notHealthz : path ≠ "/healthz/"

namespace WritePath

theorem isLiteral_iff (c : Char) : isLiteral c = true ↔ IsPathChar c := by
  have hupper : c.isUpper = true ↔ 'A' ≤ c ∧ c ≤ 'Z' := decide_eq_true_iff
  have hlower : c.isLower = true ↔ 'a' ≤ c ∧ c ≤ 'z' := by
    have hbounds : c.isLower = (decide ('a' ≤ c) && decide (c ≤ 'z')) := rfl
    rw [hbounds, Bool.and_eq_true_iff, decide_eq_true_iff, decide_eq_true_iff]
  have hdigit : c.isDigit = true ↔ '0' ≤ c ∧ c ≤ '9' := by
    have hbounds : c.isDigit = (decide ('0' ≤ c) && decide (c ≤ '9')) := rfl
    rw [hbounds, Bool.and_eq_true_iff, decide_eq_true_iff, decide_eq_true_iff]
  have halphanum : c.isAlphanum = ((c.isUpper || c.isLower) || c.isDigit) := rfl
  unfold isLiteral IsPathChar
  rw [halphanum]
  simp only [Bool.or_eq_true, hupper, hlower, hdigit, decide_eq_true_eq, List.mem_cons,
    List.not_mem_nil, or_false, or_assoc]

theorem check_eq_ok_iff_isWritePath (path : String) : check path = .ok () ↔ IsWritePath path := by
  rw [check_eq_ok_iff]
  constructor
  · rintro ⟨habsolute, hliteral, hlivez, hhealthz⟩
    obtain ⟨cs, hcs⟩ := toList_of_isAbsolute habsolute
    refine ⟨⟨cs, hcs, fun c hc => ?_⟩, hlivez, hhealthz⟩
    exact (isLiteral_iff c).mp (hliteral c (by rw [hcs]; exact List.mem_cons_of_mem _ hc))
  · rintro ⟨⟨cs, hcs, hchars⟩, hlivez, hhealthz⟩
    have habsolute : isAbsolute path = true := by
      unfold isAbsolute
      rw [hcs]
      rfl
    refine ⟨habsolute, fun c hc => ?_, hlivez, hhealthz⟩
    rw [hcs] at hc
    rcases List.mem_cons.mp hc with rfl | hc
    · decide
    · exact (isLiteral_iff c).mpr (hchars c hc)

theorem slash_mem_of_check {path : String} (h : check path = .ok ()) : '/' ∈ path.toList := by
  obtain ⟨cs, hcs, -⟩ := ((check_eq_ok_iff_isWritePath path).mp h).characters
  rw [hcs]
  exact List.mem_cons_self

end WritePath

/-! ## Reading and checking -/

namespace Settings

/-- A text with a slash is read as it is. -/
theorem toText_read_of_slash {value : String} (h : '/' ∈ value.toList) :
    (Scalar.read value).toText = value := by
  rw [Scalar.read_of_mem (by decide) (by decide) h, Scalar.toText]

/-- Reading makes no path of a text, and spoils none. -/
theorem check_read_eq_ok_iff (value : String) :
    WritePath.check (Scalar.read value).toText = .ok () ↔ WritePath.check value = .ok () := by
  constructor
  -- what was accepted has a slash, so it is the text itself
  · intro hcheck
    have hplain := Scalar.read_of_mem_toText (by decide) (WritePath.slash_mem_of_check hcheck)
    rwa [hplain, Scalar.toText] at hcheck
  · intro hcheck
    rwa [toText_read_of_slash (WritePath.slash_mem_of_check hcheck)]

/-- What loading makes of variables that set the write path. -/
structure TakesWritePath (env : Environment) (value : String) (rest : Settings) : Prop where
  /-- A text of the language is the write path, and no other setting is affected. -/
  accepted : IsWritePath value → load env = .ok { rest with writePath := value }
  /-- Any other text is refused by the check. -/
  refused : ¬ IsWritePath value → ∃ fault,
    WritePath.check (Scalar.read value).toText = .error fault ∧ load env = .error (.writePath fault)
  /-- So settings are loaded exactly for the texts of the language. -/
  decided : (∃ settings, load env = .ok settings) ↔ IsWritePath value

/-- A write path that is added to valid variables decides alone whether they stay valid. -/
theorem added_write_path_is_checked {before after : Environment} {name value : String}
    {rest : Settings} (hname : Text.lowercase name = "write_signal_path")
    (hothers : ∀ v ∈ before ++ after, ¬ Environment.Mentions "write_signal_path" v)
    (hrest : load (before ++ after) = .ok rest) :
    TakesWritePath (before ++ (name, value) :: after) value rest := by
  have hassigns : Environment.Assigns (before ++ (name, value) :: after) Slot.writePath.key value
      rest := Environment.assigns_of_added hname hothers hrest
  have hload := load_of_assigns_writePath hassigns
  have haccepted : IsWritePath value →
      load (before ++ (name, value) :: after) = .ok { rest with writePath := value } := by
    intro hpath
    have hcheck := (WritePath.check_eq_ok_iff_isWritePath value).mpr hpath
    rw [hload, toText_read_of_slash (WritePath.slash_mem_of_check hcheck), hcheck]
  have hrefused : ¬ IsWritePath value → ∃ fault,
      WritePath.check (Scalar.read value).toText = .error fault ∧
        load (before ++ (name, value) :: after) = .error (.writePath fault) := by
    intro hpath
    -- a text outside the language is not read into it
    rw [← WritePath.check_eq_ok_iff_isWritePath, ← check_read_eq_ok_iff] at hpath
    cases hcheck : WritePath.check (Scalar.read value).toText with
    | ok accepted => exact absurd hcheck hpath
    | error fault =>
      refine ⟨fault, rfl, ?_⟩
      rw [hload, hcheck]
  constructor
  case accepted => exact haccepted
  case refused => exact hrefused
  case decided =>
    constructor
    · rintro ⟨settings, hsettings⟩
      by_contra hpath
      obtain ⟨fault, -, hfault⟩ := hrefused hpath
      rw [hfault] at hsettings
      cases hsettings
    · intro hpath
      exact ⟨_, haccepted hpath⟩

/-- A path that is added to a host and a seed. -/
theorem added_v1_path_is_checked :
    (∀ v ∈ [("HTTP_HOST", "10.0.0.1")] ++ [("ID_SEED", "42")],
        ¬ Environment.Mentions "write_signal_path" v) ∧
      TakesWritePath [("HTTP_HOST", "10.0.0.1"), ("WRITE_SIGNAL_PATH", "/v1.2/write_signal~x"),
          ("ID_SEED", "42")] "/v1.2/write_signal~x"
        { default with httpHost := "10.0.0.1", idSeed := some 42 } := by
  have hothers : ∀ v ∈ [("HTTP_HOST", "10.0.0.1")] ++ [("ID_SEED", "42")],
      ¬ Environment.Mentions "write_signal_path" v := by decide
  exact ⟨hothers, added_write_path_is_checked (by decide) hothers (by decide)⟩

end Settings

end SignalStub
