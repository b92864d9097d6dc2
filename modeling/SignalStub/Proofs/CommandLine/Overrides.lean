import Mathlib.Data.List.Nodup
import SignalStub.Proofs.CommandLine.Options
import SignalStub.Proofs.Settings.Origin
import SignalStub.Proofs.Stub.Stages

/-! # Options over variables over defaults

    The host and the port of the service are the two settings that an option can give. Whatever
    options are given, in whatever order and spelling, only their values reach the settings, and they
    reach no other setting than their own. So each of the two comes from its option, from the last
    variable that mentions it, or from the default, in this order, and the other six are as they were
    loaded. The write path among them was checked when the settings were loaded, and needs no second
    check.

    An option that is given twice has no effect at all, because such a command line is never read.
-/

namespace SignalStub.CommandLine

open Settings

/-! ## The values of distinct options -/

section Distinct
variable {choices : List Choice} (hdistinct : (choices.map Choice.opt).Nodup)
include hdistinct

/-- Among distinct options, the one that gives a value is found. -/
theorem findSome?_of_distinct {α : Type} {f : Choice → Option α} {opt : Opt}
    (hopt : ∀ choice value, f choice = some value → choice.opt = opt) (value : α) :
    choices.findSome? f = some value ↔ ∃ choice ∈ choices, f choice = some value := by
  constructor
  · exact List.exists_of_findSome?_eq_some
  · rintro ⟨choice, hmem, hvalue⟩
    have hsome : (choices.findSome? f).isSome = true :=
      List.findSome?_isSome_iff.mpr ⟨choice, hmem, Option.isSome_of_eq_some hvalue⟩
    obtain ⟨found, hfound⟩ := Option.isSome_iff_exists.mp hsome
    obtain ⟨other, hother, hfound'⟩ := List.exists_of_findSome?_eq_some hfound
    -- both give a value for the same option, so they are one
    have hsame : other = choice := List.inj_on_of_nodup_map hdistinct hother hmem
      ((hopt other found hfound').trans (hopt choice value hvalue).symm)
    rw [hfound, ← hfound', hsame, hvalue]

theorem given_host_iff (value : String) :
    (given choices).host = some value ↔ ∃ choice ∈ choices, choice.host? = some value := by
  have hopt : ∀ choice found, Choice.host? choice = some found → choice.opt = .host := by
    intro choice found h
    cases choice with
    | host => rfl
    | port => cases h
  exact findSome?_of_distinct hdistinct hopt value

theorem given_port_iff (value : UInt16) :
    (given choices).port = some value ↔ ∃ choice ∈ choices, choice.port? = some value := by
  have hopt : ∀ choice found, Choice.port? choice = some found → choice.opt = .port := by
    intro choice found h
    cases choice with
    | host => cases h
    | port => rfl
  exact findSome?_of_distinct hdistinct hopt value

end Distinct

/-- The same options, perhaps in another order and in other spellings. -/
structure SameValues (choices others : List Choice) : Prop where
  host : ∀ value, (∃ choice ∈ choices, choice.host? = some value) ↔
    ∃ choice ∈ others, choice.host? = some value
  port : ∀ value, (∃ choice ∈ choices, choice.port? = some value) ↔
    ∃ choice ∈ others, choice.port? = some value

theorem SameValues.given_eq {choices others : List Choice} (h : SameValues choices others)
    (hdistinct : (choices.map Choice.opt).Nodup) (hothers : (others.map Choice.opt).Nodup) :
    given choices = given others := by
  have hhost : (given choices).host = (given others).host := by
    apply Option.ext
    intro value
    rw [given_host_iff hdistinct, given_host_iff hothers, h.host]
  have hport : (given choices).port = (given others).port := by
    apply Option.ext
    intro value
    rw [given_port_iff hdistinct, given_port_iff hothers, h.port]
  rw [ListenArgs.mk.injEq]
  exact ⟨hhost, hport⟩

/-! ## Settings under options -/

/-- What distinct options do to settings that were loaded. -/
structure Override (env : Environment) (s : Settings) (choices : List Choice) : Prop where
  /-- The command line is read, as the options that are given. -/
  parsed : parse ("listen" :: argumentsOf choices) = .ok (some (given choices))
  /-- The host that is read is the one that is given, and there is none if none is given. -/
  hostGiven : ∀ value, (given choices).host = some value ↔
    ∃ choice ∈ choices, choice.host? = some value
  /-- The port likewise. -/
  portGiven : ∀ value, (given choices).port = some value ↔
    ∃ choice ∈ choices, choice.port? = some value
  /-- The same options are read alike in every other order and spelling. -/
  alike : ∀ others : List Choice, (others.map Choice.opt).Nodup → SameValues choices others →
    parse ("listen" :: argumentsOf others) = parse ("listen" :: argumentsOf choices)
  /-- The host and the port that are given are put into the settings, and nothing else changes. -/
  applied : (given choices).apply s = { s with
    httpHost := (given choices).host.getD s.httpHost
    httpPort := (given choices).port.getD s.httpPort }
  /-- The host is the one that comes first by the order of precedence. -/
  host : ∀ value, Origin .httpHost (given choices).host env value ↔
    value = ((given choices).apply s).httpHost
  /-- The port likewise. -/
  port : ∀ value, Origin .httpPort (given choices).port env value ↔
    value = ((given choices).apply s).httpPort
  /-- No option decides about any other setting. -/
  others : ∀ {kind : Kind} (slot : Slot kind), slot.key ≠ Slot.httpHost.key →
    slot.key ≠ Slot.httpPort.key →
      ∀ value, Origin slot none env value ↔ value = slot.get ((given choices).apply s)
  /-- The write path is still one that is accepted. -/
  accepted : WritePath.check ((given choices).apply s).writePath = .ok ()
  /-- If the traces can be set up, the service runs with these settings. -/
  served : ∀ exporter, Program.telemetryFault? exporter env s = none →
    Program.plan env ("listen" :: argumentsOf choices) exporter =
      .serve ((given choices).apply s) (Program.telemetryEvents s)

theorem override_of_distinct {env : Environment} {s : Settings} (h : load env = .ok s)
    {choices : List Choice} (hdistinct : (choices.map Choice.opt).Nodup) :
    Override env s choices where
  parsed := parse_argumentsOf hdistinct
  hostGiven := given_host_iff hdistinct
  portGiven := given_port_iff hdistinct
  alike := by
    intro others hothers hsame
    rw [parse_argumentsOf hothers, parse_argumentsOf hdistinct, hsame.given_eq hdistinct hothers]
  applied := rfl
  host := origin_iff h .httpHost (given choices).host
  port := origin_iff h .httpPort (given choices).port
  others := by
    intro kind slot hhost hport
    cases slot with
    | httpHost => exact absurd rfl hhost
    | httpPort => exact absurd rfl hport
    | _ => exact origin_iff h _ none
  accepted := ((load_eq_ok_iff _ _).mp h).2
  served := fun _ htelemetry => Program.plan_of_listen ⟨h, htelemetry⟩ (parse_argumentsOf hdistinct)

/-- What options do to settings that were loaded. -/
structure OptionsOverride (env : Environment) (s : Settings) (choices : List Choice) : Prop where
  /-- Options that are given once come before the variables. -/
  distinct : (choices.map Choice.opt).Nodup → Override env s choices
  /-- If an option is given more than once, this is the fault that is told. -/
  repeated : ¬ (choices.map Choice.opt).Nodup → ∃ opt, 2 ≤ (choices.map Choice.opt).count opt ∧
    parse ("listen" :: argumentsOf choices) = .error (.usage (.repeated opt))
  /-- Whatever stands before, between and behind two values of one option, nothing is read. -/
  twice : ∀ first second : Choice, first.opt = second.opt → ∀ before between behind : List String,
    ∃ stop, parse ("listen" :: (before ++ first.arguments ++ between ++ second.arguments ++
      behind)) = .error stop

/-- The options of `listen` override the settings from the variables, each at most once. -/
theorem options_override_settings {env : Environment} {s : Settings} (h : load env = .ok s)
    (choices : List Choice) : OptionsOverride env s choices where
  distinct := override_of_distinct h
  repeated := parse_repeated
  twice := by
    intro first second hsame before between behind
    exact parse_twice hsame before between behind

/-- A port right behind its letter, and a host with an equals sign in it, over a variable. -/
theorem short_port_overrides_variable :
    load [("HTTP_PORT", "7000")] = .ok { Settings.default with httpPort := 7000 } ∧
      argumentsOf [.port (.decimal 9000) .shortAttached, .host "a=b" .attached nofun] =
        ["-p9000", "--host=a=b"] ∧
      OptionsOverride [("HTTP_PORT", "7000")] { Settings.default with httpPort := 7000 }
        [.port (.decimal 9000) .shortAttached, .host "a=b" .attached nofun] := by
  have hload : load [("HTTP_PORT", "7000")] = .ok { Settings.default with httpPort := 7000 } := rfl
  exact ⟨hload, by decide, options_override_settings hload _⟩

end SignalStub.CommandLine
