import SignalStub.Proofs.Outcome
import SignalStub.Proofs.Settings.Environment

/-! # One setting at a time

    Each of the eight settings is read from its own key and put into its own place. A variable that
    mentions a key says nothing about any other key, so what the variables give for one setting can
    be looked at while the other seven stay as they are: they are read from the variables that do
    not mention the key.

    The settings differ in the kind of value they hold, which decides how they are read. A statement
    about one kind of setting is therefore made once for all settings of the kind.
-/

namespace SignalStub

open Settings

/-! ## Variables for a key -/

namespace Environment

/-- A variable mentions a key: it is called like the key, or its name is a path that begins there. -/
def Mentions (key : String) (assignment : String × String) : Prop :=
  Text.lowercase assignment.1 = key ∨
    NameShape.ofName (Text.lowercase assignment.1) = .table key ∨
      NameShape.ofName (Text.lowercase assignment.1) = .sequence key

instance (key : String) : DecidablePred (Mentions key) := fun assignment =>
  inferInstanceAs (Decidable (Text.lowercase assignment.1 = key ∨
    NameShape.ofName (Text.lowercase assignment.1) = .table key ∨
      NameShape.ofName (Text.lowercase assignment.1) = .sequence key))

/-- The variables that do not mention a key. -/
def without (env : Environment) (key : String) : Environment :=
  env.filter fun v => ¬ Mentions key v

/-- The last variable that mentions a key is called like it, and has a value. -/
def Sets (env : Environment) (key value : String) : Prop :=
  ∃ before name after, env = before ++ (name, value) :: after ∧ Text.lowercase name = key ∧
    ∀ v ∈ after, ¬ Mentions key v

theorem given?_of_not_mentions {key : String} {v : String × String} (h : ¬ Mentions key v) :
    given? key v = none := by
  obtain ⟨hname, hpath⟩ := not_or.mp h
  obtain ⟨htable, hsequence⟩ := not_or.mp hpath
  unfold given?
  split
  next root hshape =>
    refine if_neg ?_
    rintro rfl
    exact hname (NameShape.eq_of_ofName hshape)
  next root hshape =>
    refine if_neg ?_
    rintro rfl
    exact htable hshape
  next root hshape =>
    refine if_neg ?_
    rintro rfl
    exact hsequence hshape
  next => rfl

theorem find?_append (a b : Environment) (key : String) :
    find? (a ++ b) key = (b.find? key).or (a.find? key) := by
  simp only [find?, List.reverse_append, List.findSome?_append]

section Key
variable {key : String} (hkey : key ∈ settingKeys)
include hkey

theorem given?_of_named {v : String × String} (hname : Text.lowercase v.1 = key) :
    given? key v = some (.scalar (.read v.2)) := by
  unfold given?
  rw [hname, ofName_of_mem_settingKeys key hkey]
  exact if_pos rfl

/-- A variable that mentions one key gives nothing for another. -/
theorem given?_of_mentions_other {other : String} (hother : other ≠ key) {v : String × String}
    (h : Mentions key v) : given? other v = none := by
  have hne : ¬ key = other := fun hsame => hother hsame.symm
  unfold given?
  rcases h with hname | htable | hsequence
  · rw [hname, ofName_of_mem_settingKeys key hkey]
    exact if_neg hne
  · rw [htable]
    exact if_neg hne
  · rw [hsequence]
    exact if_neg hne

/-- The variables for one key can be left out when another key is looked for. -/
theorem find?_without {other : String} (hother : other ≠ key) (env : Environment) :
    (env.without key).find? other = env.find? other := by
  -- from the last variable backwards, because the last one decides
  induction env using List.reverseRecOn with
  | nil => rfl
  | append_singleton env v ih =>
    rw [find?_append_singleton]
    by_cases hmentions : Mentions key v
    · have hleft : without (env ++ [v]) key = without env key := by simp [without, hmentions]
      rw [hleft, ih, given?_of_mentions_other hkey hother hmentions, Option.none_or]
    · have hleft : without (env ++ [v]) key = without env key ++ [v] := by
        simp [without, hmentions]
      rw [hleft, find?_append_singleton, ih]

/-- A key that is set has its value. -/
theorem Sets.find? {env : Environment} {value : String} (h : env.Sets key value) :
    env.find? key = some (.scalar (.read value)) := by
  obtain ⟨before, name, after, rfl, hname, hafter⟩ := h
  -- nothing behind the variable mentions the key, and the variable itself covers what is before it
  have hnone : Environment.find? after key = none := by
    unfold Environment.find?
    rw [List.findSome?_eq_none_iff]
    intro v hv
    exact given?_of_not_mentions (hafter v (List.mem_reverse.mp hv))
  have hvariable : Environment.find? (before ++ [(name, value)]) key =
      some (.scalar (.read value)) := by
    rw [find?_append_singleton, given?_of_named hkey (v := (name, value)) hname]
    rfl
  rw [List.append_cons, find?_append, hnone, hvariable]
  rfl

end Key

end Environment

/-! ## Settings by kind -/

namespace Settings

/-- The kinds of settings. -/
inductive Kind
  | text
  | port
  | seed
  | truth
  deriving DecidableEq, Repr

/-- What a setting of a kind holds. -/
def Kind.Value : Kind → Type
  | .text => String
  | .port => UInt16
  | .seed => Option UInt64
  | .truth => Bool

/-- How a setting of a kind is read. -/
def Kind.read : (kind : Kind) → String → Entry → Except FieldFault kind.Value
  | .text => readText
  | .port => readPort
  | .seed => fun key entry => (readSeed key entry).map some
  | .truth => readBoolean

/-- The eight settings. -/
inductive Slot : Kind → Type
  | httpHost : Slot .text
  | httpPort : Slot .port
  | writePath : Slot .text
  | idSeed : Slot .seed
  | serviceName : Slot .text
  | useTelemetry : Slot .truth
  | otlpHost : Slot .text
  | otlpPort : Slot .port

namespace Slot

variable {kind : Kind}

/-- The key that a setting is read from. -/
def key : Slot kind → String
  | .httpHost => "http_host"
  | .httpPort => "http_port"
  | .writePath => "write_signal_path"
  | .idSeed => "id_seed"
  | .serviceName => "service_name"
  | .useTelemetry => "use_telemetry"
  | .otlpHost => "otlp_host"
  | .otlpPort => "otlp_port"

/-- The value of a setting. -/
def get : Slot kind → Settings → kind.Value
  | .httpHost, s => s.httpHost
  | .httpPort, s => s.httpPort
  | .writePath, s => s.writePath
  | .idSeed, s => s.idSeed
  | .serviceName, s => s.serviceName
  | .useTelemetry, s => s.useTelemetry
  | .otlpHost, s => s.otlpHost
  | .otlpPort, s => s.otlpPort

/-- The settings with one of them replaced. -/
def put : Slot kind → kind.Value → Settings → Settings
  | .httpHost, value, s => { s with httpHost := value }
  | .httpPort, value, s => { s with httpPort := value }
  | .writePath, value, s => { s with writePath := value }
  | .idSeed, value, s => { s with idSeed := value }
  | .serviceName, value, s => { s with serviceName := value }
  | .useTelemetry, value, s => { s with useTelemetry := value }
  | .otlpHost, value, s => { s with otlpHost := value }
  | .otlpPort, value, s => { s with otlpPort := value }

theorem key_mem (slot : Slot kind) : slot.key ∈ settingKeys := by
  cases slot <;> decide

/-- Reads one setting. -/
def load (env : Environment) (slot : Slot kind) : Except FieldFault kind.Value :=
  readKey env.collect slot.key kind.read (slot.get default)

/-- A setting is read from what the last variable that mentions its key gives. -/
theorem load_eq (env : Environment) (slot : Slot kind) :
    slot.load env = ((env.find? slot.key).map (kind.read slot.key)).getD (.ok (slot.get default)) := by
  rw [load, readKey, Environment.lookup?_collect (ofName_of_mem_settingKeys _ slot.key_mem)]
  cases env.find? slot.key <;> rfl

end Slot

/-! ## Reading one setting among the others -/

theorem readAll_eq (env : Environment) :
    readAll env = do
      let httpHost ← Slot.httpHost.load env
      let httpPort ← Slot.httpPort.load env
      let writePath ← Slot.writePath.load env
      let idSeed ← Slot.idSeed.load env
      let serviceName ← Slot.serviceName.load env
      let useTelemetry ← Slot.useTelemetry.load env
      let otlpHost ← Slot.otlpHost.load env
      let otlpPort ← Slot.otlpPort.load env
      return ⟨httpHost, httpPort, writePath, idSeed, serviceName, useTelemetry, otlpHost,
        otlpPort⟩ := rfl

section One
variable {env : Environment} {s : Settings} {kind : Kind}

/-- Settings that were read hold what was read for each of them. -/
theorem load_of_readAll (h : readAll env = .ok s) (slot : Slot kind) :
    slot.load env = .ok (slot.get s) := by
  rw [readAll_eq] at h
  obtain ⟨httpHost, hhost, h⟩ := exists_of_bind_eq_ok h
  obtain ⟨httpPort, hport, h⟩ := exists_of_bind_eq_ok h
  obtain ⟨writePath, hpath, h⟩ := exists_of_bind_eq_ok h
  obtain ⟨idSeed, hseed, h⟩ := exists_of_bind_eq_ok h
  obtain ⟨serviceName, hname, h⟩ := exists_of_bind_eq_ok h
  obtain ⟨useTelemetry, htelemetry, h⟩ := exists_of_bind_eq_ok h
  obtain ⟨otlpHost, hotlpHost, h⟩ := exists_of_bind_eq_ok h
  obtain ⟨otlpPort, hotlpPort, h⟩ := exists_of_bind_eq_ok h
  obtain rfl := Except.ok.inj h
  cases slot with
  | httpHost => exact hhost
  | httpPort => exact hport
  | writePath => exact hpath
  | idSeed => exact hseed
  | serviceName => exact hname
  | useTelemetry => exact htelemetry
  | otlpHost => exact hotlpHost
  | otlpPort => exact hotlpPort

/-- If seven settings are read, the eighth decides. -/
theorem readAll_of_others (slot : Slot kind)
    (hothers : ∀ {kind' : Kind} (other : Slot kind'), other.key ≠ slot.key →
      other.load env = .ok (other.get s)) :
    readAll env = (slot.load env).map fun value => slot.put value s := by
  rw [readAll_eq]
  -- what the others give is known, so only the reading of this one is left
  cases hload : slot.load env with
  | error fault => cases slot <;> simp (disch := decide) only [hothers, hload] <;> rfl
  | ok value => cases slot <;> simp (disch := decide) only [hothers, hload] <;> rfl

end One

end Settings

/-! ## A value among valid variables -/

/-- A key has a value, and all variables that do not mention the key are valid. -/
structure Environment.Assigns (env : Environment) (key value : String) (rest : Settings) :
    Prop where
  sets : env.Sets key value
  others : Settings.load (env.without key) = .ok rest

/-- A variable that is added to variables that do not mention its key. -/
theorem Environment.assigns_of_added {before after : Environment} {name key value : String}
    {rest : Settings} (hname : Text.lowercase name = key)
    (hbefore : ∀ v ∈ before ++ after, ¬ Mentions key v)
    (hrest : Settings.load (before ++ after) = .ok rest) :
    Assigns (before ++ (name, value) :: after) key value rest where
  sets := ⟨before, name, after, rfl, hname, fun v hv => hbefore v (List.mem_append_right _ hv)⟩
  others := by
    have hwithout : without (before ++ (name, value) :: after) key = before ++ after := by
      have hnamed : Mentions key (name, value) := .inl hname
      have hkept : without (before ++ after) key = before ++ after := by
        rw [without, List.filter_eq_self]
        simpa using hbefore
      rw [← hkept, without, without, List.filter_append, List.filter_append,
        List.filter_cons_of_neg (by simpa using hnamed)]
    rw [hwithout]
    exact hrest

/-- A variable on its own, among the defaults. -/
theorem Environment.assigns_alone {key : String} (name value : String)
    (hname : Text.lowercase name = key) : Assigns [(name, value)] key value Settings.default := by
  have hnone : ∀ v ∈ ([] : Environment) ++ [], ¬ Mentions key v := by simp
  exact assigns_of_added hname hnone rfl

namespace Settings

section Assigned
variable {env : Environment} {value : String} {rest : Settings} {kind : Kind} {slot : Slot kind}
  (h : env.Assigns slot.key value rest)
include h

theorem readAll_of_assigns :
    readAll env = (kind.read slot.key (.scalar (.read value))).map fun v => slot.put v rest := by
  have hothers : ∀ {kind' : Kind} (other : Slot kind'), other.key ≠ slot.key →
      other.load env = .ok (other.get rest) := by
    intro kind' other hother
    -- another setting is read as without the variables for this one
    have hread := ((load_eq_ok_iff _ _).mp h.others).1
    have hload := load_of_readAll hread other
    rw [Slot.load_eq] at hload ⊢
    rwa [Environment.find?_without slot.key_mem hother] at hload
  have hself : slot.load env = kind.read slot.key (.scalar (.read value)) := by
    rw [Slot.load_eq, h.sets.find? slot.key_mem]
    rfl
  rw [readAll_of_others slot hothers, hself]

/-- A value of the wrong kind is the fault that is reported. -/
theorem load_of_assigns_error {fault : FieldFault}
    (hread : kind.read slot.key (.scalar (.read value)) = .error fault) :
    load env = .error (.field fault) := by
  unfold load
  rw [readAll_of_assigns h, hread]
  rfl

/-- A value of the right kind changes its own setting and no other. -/
theorem load_of_assigns_ok (hpath : slot.key ≠ Slot.writePath.key) {v : kind.Value}
    (hread : kind.read slot.key (.scalar (.read value)) = .ok v) :
    load env = .ok (slot.put v rest) := by
  -- the write path is that of the other variables, and was accepted there
  have hcheck : WritePath.check (slot.put v rest).writePath = .ok () := by
    have hrest := ((load_eq_ok_iff _ _).mp h.others).2
    cases slot with
    | writePath => exact absurd rfl hpath
    | _ => exact hrest
  refine (load_eq_ok_iff _ _).mpr ⟨?_, hcheck⟩
  rw [readAll_of_assigns h, hread]
  rfl

end Assigned

/-- A write path is checked as it is read. -/
theorem load_of_assigns_writePath {env : Environment} {value : String} {rest : Settings}
    (h : env.Assigns Slot.writePath.key value rest) :
    load env =
      match WritePath.check (Scalar.read value).toText with
      | .error fault => .error (.writePath fault)
      | .ok () => .ok { rest with writePath := (Scalar.read value).toText } := by
  unfold load
  rw [readAll_of_assigns h]
  rfl

end Settings

end SignalStub
