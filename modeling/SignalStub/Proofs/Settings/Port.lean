import SignalStub.Proofs.CommandLine.Attached
import SignalStub.Proofs.Number.Rounding
import SignalStub.Proofs.Settings.Reading
import SignalStub.Proofs.Settings.Slot

/-! # Ports from texts

    A port comes from a variable or from an argument, and the two readers have nothing in common but
    the reader of signed 64-bit integers. An argument is refused where that reader fails. A variable
    is not: what fits no signed word goes through a double and is cut to the unsigned range first.
    Above the range this makes no difference, because the double stays far above the ports. Below it
    everything is cut to zero, and zero is a port.

    So the two readers agree on every integer down to the smallest signed word, and on none below.
-/

namespace SignalStub

open Number Settings

/-- The integers that are ports. -/
def IsPort (n : Int) : Prop :=
  0 ≤ n ∧ n ≤ 65535

instance : DecidablePred IsPort := fun n => inferInstanceAs (Decidable (0 ≤ n ∧ n ≤ 65535))

theorem toNat_of_isPort {n : Int} (h : IsPort n) : ((UInt16.ofNat n.toNat).toNat : Int) = n := by
  obtain ⟨hlow, hhigh⟩ := h
  have hsize : n.toNat < UInt16.size := by
    show n.toNat < 65536
    omega
  rw [UInt16.toNat_ofNat_of_lt' hsize, Int.toNat_of_nonneg hlow]

theorem fitsInt64_of_isPort {n : Int} (h : IsPort n) : FitsInt64 n := by
  unfold IsPort at h
  unfold FitsInt64
  omega

/-! ## Variables -/

namespace Settings

section Variable
variable (key : String) {n : Int}

theorem readPort_of_unsigned {m : Nat} {entry : Entry} (h : readUnsigned64 key entry = .ok m) :
    readPort key entry =
      if m < UInt16.size then .ok (UInt16.ofNat m)
      else .error ⟨key, .unsigned m, .unsigned16, false⟩ := by
  unfold readPort
  rw [h]

theorem readPort_of_isPort (h : IsPort n) :
    readPort key (.scalar (.read (integerText n))) = .ok (UInt16.ofNat n.toNat) := by
  have hread := readUnsigned64_integerText key n
  rw [if_pos (fitsInt64_of_isPort h), if_pos h.1] at hread
  have hsize : n.toNat < UInt16.size := by
    have hhigh := h.2
    show n.toNat < 65536
    omega
  rw [readPort_of_unsigned key hread, if_pos hsize]

/-- An integer that is no port is refused, unless it lies below the signed words. -/
theorem readPort_refuses (h : ¬ IsPort n) (hlow : -9223372036854775808 ≤ n) :
    ∃ fault, readPort key (.scalar (.read (integerText n))) = .error fault ∧ fault.key = key := by
  have hread := readUnsigned64_integerText key n
  by_cases hfits : FitsInt64 n
  · rw [if_pos hfits] at hread
    by_cases hsign : 0 ≤ n
    · have hlarge : ¬ n.toNat < UInt16.size := by
        unfold IsPort at h
        show ¬ n.toNat < 65536
        omega
      rw [if_pos hsign] at hread
      rw [readPort_of_unsigned key hread, if_neg hlarge]
      exact ⟨_, rfl, rfl⟩
    · rw [if_neg hsign] at hread
      unfold readPort
      rw [hread]
      exact ⟨_, rfl, rfl⟩
  -- what lies above the signed words stays above the ports
  · have hhigh : 9223372036854775808 ≤ n.natAbs ∧ 0 ≤ n := by
      unfold FitsInt64 at hfits
      omega
    have hsign : decide (n < 0) = false := decide_eq_false (by omega)
    have hwide := Binary64.le_toUnsigned64_of_wide hhigh.1
    have hlarge : ¬ (Binary64.ofDecimal false n.natAbs 0).toUnsigned64 < UInt16.size := by
      show ¬ _ < 65536
      omega
    rw [if_neg hfits, hsign] at hread
    rw [readPort_of_unsigned key hread, if_neg hlarge]
    exact ⟨_, rfl, rfl⟩

/-- Every integer below the signed words becomes the port zero. -/
theorem readPort_collapses (h : n < -9223372036854775808) :
    readPort key (.scalar (.read (integerText n))) = .ok 0 := by
  have hfits : ¬ FitsInt64 n := fun hfits => absurd hfits.1 (by omega)
  have hsign : decide (n < 0) = true := decide_eq_true (by omega)
  have hread := readUnsigned64_integerText key n
  rw [if_neg hfits, hsign, Binary64.toUnsigned64_negative] at hread
  exact readPort_of_unsigned key hread

end Variable

end Settings

/-! ## Arguments -/

namespace CommandLine

variable {n : Int}

theorem readPort_of_isPort (h : IsPort n) :
    readPort (integerText n) = .ok (UInt16.ofNat n.toNat) := by
  have hread := (readInt64_integerText n n).mpr ⟨rfl, fitsInt64_of_isPort h⟩
  have hrange : (decide (0 ≤ n) && decide (n < UInt16.size)) = true := by
    have hhigh := h.2
    have hsize : n < (UInt16.size : Int) := by
      show n < 65536
      omega
    rw [decide_eq_true h.1, decide_eq_true hsize]
    rfl
  unfold readPort
  rw [hread]
  exact if_pos hrange

theorem readPort_refuses (h : ¬ IsPort n) : ∃ fault, readPort (integerText n) = .error fault := by
  unfold readPort
  cases hread : readInt64 (integerText n).toList with
  | error fault => exact ⟨_, rfl⟩
  | ok m =>
    obtain ⟨rfl, -⟩ := (readInt64_integerText n m).mp hread
    have hrange : ¬ (decide (0 ≤ m) && decide (m < UInt16.size)) = true := by
      rw [Bool.and_eq_true_iff, decide_eq_true_iff, decide_eq_true_iff]
      show ¬ (0 ≤ m ∧ m < 65536)
      unfold IsPort at h
      omega
    exact ⟨_, if_neg hrange⟩

/-- The command line that sets the port to an integer. -/
def portArguments (n : Int) : List String :=
  ["listen", Opt.port.attached (integerText n)]

theorem parse_of_isPort (h : IsPort n) :
    parse (portArguments n) = .ok (some ⟨none, some (UInt16.ofNat n.toNat)⟩) := by
  unfold portArguments
  rw [parse_port, readPort_of_isPort h]

/-- Every other integer is refused. -/
theorem parse_refuses (h : ¬ IsPort n) :
    ∃ fault, parse (portArguments n) = .error (.usage (.invalidPort (integerText n) fault)) := by
  obtain ⟨fault, hfault⟩ := readPort_refuses h
  unfold portArguments
  rw [parse_port, hfault]
  exact ⟨fault, rfl⟩

end CommandLine

/-! ## Both readers -/

namespace Settings

open CommandLine

/-- What a variable and an argument make of one integer. -/
structure PortVerdicts (slot : Slot .port) (env : Environment) (n : Int) (rest : Settings) :
    Prop where
  /-- Both take a port, and it is the port of the settings. -/
  taken : IsPort n → ∃ port : UInt16, (port.toNat : Int) = n ∧ load env = .ok (slot.put port rest) ∧
    ∃ args, parse (portArguments n) = .ok (some args) ∧
      ∀ settings, args.apply settings = Slot.httpPort.put port settings
  /-- No argument takes anything else. -/
  argumentRefused : ¬ IsPort n →
    ∃ fault, parse (portArguments n) = .error (.usage (.invalidPort (integerText n) fault))
  /-- No variable does so either, as long as the integer is not below the signed words. -/
  variableRefused : ¬ IsPort n → -9223372036854775808 ≤ n →
    ∃ fault, load env = .error (.field fault) ∧ fault.key = slot.key
  /-- Below them a variable sets the port zero. -/
  collapsed : n < -9223372036854775808 → load env = .ok (slot.put (0 : UInt16) rest)
  /-- So this is where the verdicts are the same. -/
  agree : ((∃ settings, load env = .ok settings) ↔ ∃ args, parse (portArguments n) = .ok args) ↔
    -9223372036854775808 ≤ n

/-- A variable and an argument agree on an integer unless it lies below the signed words. -/
theorem integer_port_verdicts (slot : Slot .port) {env : Environment} {n : Int} {rest : Settings}
    (h : env.Assigns slot.key (integerText n) rest) : PortVerdicts slot env n rest := by
  have hpath : slot.key ≠ Slot.writePath.key := by
    cases slot <;> decide
  have htaken : IsPort n → load env = .ok (slot.put (UInt16.ofNat n.toNat) rest) :=
    fun hport => load_of_assigns_ok h hpath (readPort_of_isPort slot.key hport)
  have hvariableRefused : ¬ IsPort n → -9223372036854775808 ≤ n →
      ∃ fault, load env = .error (.field fault) ∧ fault.key = slot.key := by
    intro hport hlow
    obtain ⟨fault, hfault, hkey⟩ := readPort_refuses slot.key hport hlow
    exact ⟨fault, load_of_assigns_error h hfault, hkey⟩
  have hcollapsed : n < -9223372036854775808 → load env = .ok (slot.put (0 : UInt16) rest) :=
    fun hlow => load_of_assigns_ok h hpath (readPort_collapses slot.key hlow)
  constructor
  case taken =>
    intro hport
    exact ⟨_, toNat_of_isPort hport, htaken hport, _, parse_of_isPort hport, fun _ => rfl⟩
  case argumentRefused => exact parse_refuses
  case variableRefused => exact hvariableRefused
  case collapsed => exact hcollapsed
  case agree =>
    by_cases hport : IsPort n
    -- both take a port
    · have hlow : -9223372036854775808 ≤ n := (fitsInt64_of_isPort hport).1
      exact iff_of_true (iff_of_true ⟨_, htaken hport⟩ ⟨_, parse_of_isPort hport⟩) hlow
    -- the argument refuses anything else, so they agree where the variable refuses it too
    · have hnone : ¬ ∃ args, parse (portArguments n) = .ok args := by
        obtain ⟨fault, hfault⟩ := parse_refuses hport
        rw [hfault]
        rintro ⟨args, hargs⟩
        cases hargs
      rw [iff_false_right hnone]
      constructor
      · intro hnoSettings
        by_contra hlow
        exact hnoSettings ⟨_, hcollapsed (Int.not_le.mp hlow)⟩
      · intro hlow
        obtain ⟨fault, hfault, -⟩ := hvariableRefused hport hlow
        rw [hfault]
        rintro ⟨settings, hsettings⟩
        cases hsettings

/-- The variable and the argument for one port. -/
theorem port_8081_verdicts :
    Environment.Assigns [("HTTP_PORT", "8081")] Slot.httpPort.key (integerText 8081) default ∧
      PortVerdicts .httpPort [("HTTP_PORT", "8081")] 8081 default := by
  have htext : integerText 8081 = "8081" := by decide
  have h : Environment.Assigns [("HTTP_PORT", "8081")] Slot.httpPort.key (integerText 8081)
      default := by
    rw [htext]
    exact Environment.assigns_alone "HTTP_PORT" "8081" (by decide)
  exact ⟨h, integer_port_verdicts .httpPort h⟩

/-- The first integer below the signed words is no port. The variable sets the port zero with it,
    and the argument is refused. -/
theorem port_below_signed_range_collapses :
    ¬ IsPort (-9223372036854775809) ∧
      load [("HTTP_PORT", "-9223372036854775809")] = .ok { default with httpPort := 0 } ∧
      parse ["listen", "--port=-9223372036854775809"] =
        .error (.usage (.invalidPort "-9223372036854775809" (.integer .tooSmall))) := by
  have htext : integerText (-9223372036854775809) = "-9223372036854775809" := by decide +kernel
  have h := Environment.assigns_alone "HTTP_PORT" "-9223372036854775809"
    (show Text.lowercase "HTTP_PORT" = Slot.httpPort.key by decide)
  have hread := readPort_collapses Slot.httpPort.key
    (show (-9223372036854775809 : Int) < -9223372036854775808 by decide)
  rw [htext] at hread
  have hload := load_of_assigns_ok h (by decide) hread
  exact ⟨by decide, hload, by decide⟩

end Settings

end SignalStub
