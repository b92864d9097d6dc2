import SignalStub.Proofs.CommandLine.Attached
import SignalStub.Proofs.Settings.Reading
import SignalStub.Proofs.Settings.Slot

/-! # Free texts

    The hosts and the name of the service may be any text, and no text is refused. But a text is
    read before anyone knows that a text is wanted, and what looks like a truth value or a number is
    written anew: in lower case, without a plus sign or leading zeros, with the shortest digits that
    stand for the same double. Such a text is kept only if it was written that way already.

    As an argument of the command line a host is kept, whatever it is.
-/

namespace SignalStub.Settings

open Number CommandLine

/-! ## Texts that are kept -/

/-- The texts that are written as they were read. -/
inductive IsKeptText (value : String) : Prop
  /-- A text that is no truth value and no number. -/
  | plain : ¬ IsTruthWord value → ¬ IsNumeral value.toList → IsKeptText value
  /-- A truth value in lower case. -/
  | truth : value = "true" ∨ value = "false" → IsKeptText value
  /-- The decimal text of an integer that fits a signed word. -/
  | integer {n : Int} : FitsInt64 n → value = integerText n → IsKeptText value
  /-- Another number in the digits in which its double is written. -/
  | real {x : Binary64} : ¬ IsTruthWord value → (∀ n, readInt64 value.toList ≠ .ok n) →
      Denotes value.toList x → x.toText = value → IsKeptText value

theorem toText_read_eq_iff (value : String) :
    (Scalar.read value).toText = value ↔ IsKeptText value := by
  constructor
  · intro hsame
    have hreads := Scalar.reads_read value
    generalize Scalar.read value = scalar at hreads hsame
    cases hreads with
    | yes => exact .truth (.inl hsame.symm)
    | no => exact .truth (.inr hsame.symm)
    | integer _ hn =>
      obtain ⟨-, -, hfits⟩ := (readInt64_eq_ok_iff _ _).mp hn
      exact .integer hfits hsame.symm
    | real hword hnone hx => exact .real hword hnone hx hsame
    | text hword hnumeral => exact .plain hword hnumeral
  · intro hkept
    cases hkept with
    | plain hword hnumeral => rw [(Scalar.Reads.text hword hnumeral).read_eq, Scalar.toText]
    | truth hword => rcases hword with rfl | rfl <;> decide
    | integer hfits htext => rw [htext, Scalar.read_integerText, if_pos hfits, Scalar.toText]
    | real hword hnone hx htext =>
      rw [(Scalar.Reads.real hword hnone hx).read_eq, Scalar.toText, htext]

instance : DecidablePred IsKeptText := fun value =>
  decidable_of_iff ((Scalar.read value).toText = value) (toText_read_eq_iff value)

/-- A word is kept, and a number with a plus sign is not. -/
example : IsKeptText "collector" ∧ ¬ IsKeptText "+7" := by
  decide

/-- Two points make an address, and no number. -/
theorem isKeptText_of_dotted {value : String} (h : 2 ≤ value.toList.count '.') :
    IsKeptText value := by
  have hpoint : '.' ∈ value.toList := List.count_pos_iff.mp (by omega)
  refine .plain (Scalar.not_isTruthWord_of_mem (by decide) hpoint) fun hnumeral => ?_
  have hcount := hnumeral.count_point
  omega

/-! ## Settings that are texts -/

/-- The text that a service shows of one of its settings. -/
def Slot.report : Slot .text → Settings → String
  | .httpHost, s => s.bindAddress
  | .writePath, s => s.writePath
  | .serviceName, s => s.serviceName
  | .otlpHost, s => s.otlpEndpoint

/-- Different texts are shown differently. -/
theorem Slot.report_put_eq_iff (slot : Slot .text) (v w : String) (s : Settings) :
    slot.report (slot.put v s) = slot.report (slot.put w s) ↔ v = w := by
  -- behind a host comes the same port in both
  have haddress : ∀ port, address v port = address w port ↔ v = w := by
    intro port
    unfold address
    rw [String.append_assoc, String.append_assoc, String.append_left_inj]
  cases slot with
  | httpHost => exact haddress _
  | writePath => exact Iff.rfl
  | serviceName => exact Iff.rfl
  | otlpHost =>
    refine Iff.trans ?_ (haddress s.otlpPort)
    exact String.append_right_inj "http://"

/-- What loading makes of variables that set a free text. -/
structure LoadsFreeText (slot : Slot .text) (env : Environment) (value : String)
    (rest : Settings) : Prop where
  /-- Settings are loaded whatever the text is, and no other setting is affected. -/
  loads : load env = .ok (slot.put (Scalar.read value).toText rest)
  /-- The text is the one that was set exactly for these texts. -/
  kept : (∃ settings, load env = .ok settings ∧ slot.get settings = value) ↔ IsKeptText value
  /-- The same goes for what the service shows of it. -/
  reported : ∀ settings, load env = .ok settings →
    (slot.report settings = slot.report (slot.put value rest) ↔ IsKeptText value)
  /-- A text that is no truth value is kept if one of its characters stands in no number. -/
  foreign : ¬ IsTruthWord value → (∃ c ∈ value.toList, ¬ IsNumeralChar c) →
    load env = .ok (slot.put value rest)
  /-- An address in numbers is kept. -/
  dotted : 2 ≤ value.toList.count '.' → load env = .ok (slot.put value rest)
  /-- As an argument of the command line every text is kept as the host. -/
  argument : ∃ args, parse ["listen", Opt.host.attached value] = .ok (some args) ∧
    ∀ settings, args.apply settings = Slot.httpHost.put value settings

theorem load_of_assigns_text {slot : Slot .text} (hpath : slot.key ≠ Slot.writePath.key)
    {env : Environment} {value : String} {rest : Settings} (h : env.Assigns slot.key value rest) :
    load env = .ok (slot.put (Scalar.read value).toText rest) :=
  load_of_assigns_ok h hpath rfl

/-- A free text is loaded as what it was read as, which need not be what it was. -/
theorem free_text_loads_as_read {slot : Slot .text} (hpath : slot.key ≠ Slot.writePath.key)
    {env : Environment} {value : String} {rest : Settings} (h : env.Assigns slot.key value rest) :
    LoadsFreeText slot env value rest := by
  have hload := load_of_assigns_text hpath h
  have hget : ∀ v : String, slot.get (slot.put v rest) = v := by
    intro v
    cases slot <;> rfl
  constructor
  case loads => exact hload
  case kept =>
    rw [← toText_read_eq_iff, hload]
    constructor
    · rintro ⟨settings, hsettings, hvalue⟩
      rw [← Except.ok.inj hsettings, hget] at hvalue
      exact hvalue
    · intro hsame
      exact ⟨_, rfl, (hget _).trans hsame⟩
  case reported =>
    intro settings hsettings
    rw [hload] at hsettings
    rw [← Except.ok.inj hsettings, slot.report_put_eq_iff, toText_read_eq_iff]
  case foreign =>
    rintro hword ⟨c, hmem, hc⟩
    have hkept : IsKeptText value := .plain hword fun hnumeral => hc (hnumeral.char c hmem)
    rw [hload, (toText_read_eq_iff value).mpr hkept]
  case dotted =>
    intro hpoints
    rw [hload, (toText_read_eq_iff value).mpr (isKeptText_of_dotted hpoints)]
  case argument => exact ⟨_, parse_host value, fun _ => rfl⟩

/-- An address in numbers as the host. -/
theorem loopback_loads_as_read :
    Slot.httpHost.key ≠ Slot.writePath.key ∧
      Environment.Assigns [("HTTP_HOST", "127.0.0.1")] Slot.httpHost.key "127.0.0.1" default ∧
        LoadsFreeText .httpHost [("HTTP_HOST", "127.0.0.1")] "127.0.0.1" default := by
  have hpath : Slot.httpHost.key ≠ Slot.writePath.key := by decide
  have h : Environment.Assigns [("HTTP_HOST", "127.0.0.1")] Slot.httpHost.key "127.0.0.1" default :=
    Environment.assigns_alone "HTTP_HOST" "127.0.0.1" (by decide)
  exact ⟨hpath, h, free_text_loads_as_read hpath h⟩

/-- A host that looks like a number with a zero behind its point loses the zero, and the point. -/
theorem pointed_host_is_rewritten :
    load [("HTTP_HOST", "1.0")] = .ok { default with httpHost := "1" } ∧
      parse ["listen", "--host=1.0"] = .ok (some ⟨some "1.0", none⟩) := by
  have htext : (Scalar.read "1.0").toText = "1" := by decide +kernel
  have hkey : Text.lowercase "HTTP_HOST" = Slot.httpHost.key := by decide
  have hload := load_of_assigns_text (by decide) (Environment.assigns_alone "HTTP_HOST" "1.0" hkey)
  rw [htext] at hload
  exact ⟨hload, parse_host "1.0"⟩

end SignalStub.Settings
