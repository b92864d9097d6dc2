import Mathlib.Data.List.Nodup
import SignalStub.Proofs.Settings.Table

/-! # What settings depend on

    Loading looks at the table of the variables through eight questions, one for each key: what
    stands under it? In a list where every name is spelled in one way and no name is a path into a
    setting, the answer is the last value of the variable that is called like the key.

    So two such lists load alike as soon as they agree on the values of the eight keys. The order
    of the variables, the letter case of their names and everything about the other variables drop
    out.
-/

namespace SignalStub

open Settings

/-! ## Names -/

/-- A name that is a key is called like it. -/
theorem Settings.NameShape.eq_of_ofName {name key : String} (h : ofName name = .value key) :
    name = key := by
  unfold ofName at h
  simp only at h
  split at h
  · cases h
  · split at h
    next hrest =>
      -- nothing stands behind the characters of the key
      have hwhole := List.takeWhile_append_dropWhile (p := isKeyChar) (l := name.toList)
      rw [hrest, List.append_nil] at hwhole
      rw [hwhole, String.ofList_toList] at h
      exact NameShape.value.inj h
    · cases h
    · cases h

/-- The keys of the settings, in the order in which they are read. -/
def settingKeys : List String :=
  ["http_host", "http_port", "write_signal_path", "id_seed", "service_name", "use_telemetry",
    "otlp_host", "otlp_port"]

theorem ofName_of_mem_settingKeys : ∀ key ∈ settingKeys, NameShape.ofName key = .value key := by
  decide

namespace Environment

/-! ## Values -/

/-- Whether a variable is called like a key, in any letter case. -/
def isNamed (key : String) (assignment : String × String) : Bool :=
  Text.lowercase assignment.1 = key

/-- The value that the variables set a key to: the last one counts. -/
def value? (env : Environment) (key : String) : Option String :=
  ((env.filter (isNamed key)).getLast?).map Prod.snd

/-- The name of a variable is a path into a setting. -/
def IsPart (assignment : String × String) : Prop :=
  ∃ key ∈ settingKeys, NameShape.ofName (Text.lowercase assignment.1) = .table key ∨
    NameShape.ofName (Text.lowercase assignment.1) = .sequence key

instance : DecidablePred IsPart := fun assignment =>
  inferInstanceAs (Decidable (∃ key ∈ settingKeys,
    NameShape.ofName (Text.lowercase assignment.1) = .table key ∨
      NameShape.ofName (Text.lowercase assignment.1) = .sequence key))

/-- What the variables set does not hang on the order in which names are taken. -/
structure Unambiguous (env : Environment) : Prop where
  /-- Names that differ still differ in lower case. -/
  oneSpelling : ∀ v ∈ env, ∀ w ∈ env, Text.lowercase v.1 = Text.lowercase w.1 → v.1 = w.1
  /-- No name is a path into a setting. -/
  noParts : ∀ v ∈ env, ¬ IsPart v

theorem Unambiguous.of_subset {env other : Environment} (h : env.Unambiguous)
    (hsubset : ∀ v ∈ other, v ∈ env) : other.Unambiguous where
  oneSpelling := by
    intro v hv w hw hlower
    exact h.oneSpelling v (hsubset v hv) w (hsubset w hw) hlower
  noParts := fun v hv => h.noParts v (hsubset v hv)

theorem value?_append_singleton (env : Environment) (v : String × String) (key : String) :
    value? (env ++ [v]) key = if isNamed key v then some v.2 else value? env key := by
  unfold value?
  rw [List.filter_append]
  cases hnamed : isNamed key v with
  | true => simp [hnamed]
  | false => simp [hnamed]

/-- A variable that is no path into a setting gives a key its value, or nothing. -/
theorem given?_of_not_isPart {key : String} (hkey : key ∈ settingKeys) {v : String × String}
    (hpart : ¬ IsPart v) :
    given? key v = if isNamed key v then some (.scalar (.read v.2)) else none := by
  by_cases hnamed : Text.lowercase v.1 = key
  · have hshape := ofName_of_mem_settingKeys key hkey
    simp [given?, hshape, isNamed, hnamed]
  · have hother : given? key v = none := by
      unfold given?
      -- a key under another name, a path into a setting, and a name that is no key at all
      split
      next root hshape =>
        have hroot := NameShape.eq_of_ofName hshape
        rw [if_neg fun h => hnamed (hroot.trans h)]
      next root hshape =>
        have hroot : root ≠ key := by
          rintro rfl
          exact hpart ⟨root, hkey, .inl hshape⟩
        rw [if_neg hroot]
      next root hshape =>
        have hroot : root ≠ key := by
          rintro rfl
          exact hpart ⟨root, hkey, .inr hshape⟩
        rw [if_neg hroot]
      next => rfl
    simp [hother, isNamed, hnamed]

/-- What is found for a key is its value, as a scalar. -/
theorem find?_eq_value? {key : String} (hkey : key ∈ settingKeys) (env : Environment)
    (hparts : ∀ v ∈ env, ¬ IsPart v) :
    env.find? key = (env.value? key).map fun value => .scalar (.read value) := by
  -- from the last variable backwards, because the last one decides on both sides
  induction env using List.reverseRecOn with
  | nil => rfl
  | append_singleton env v ih =>
    have hbefore := ih fun w hw => hparts w (by simp [hw])
    have hlast := given?_of_not_isPart hkey (hparts v (by simp))
    rw [find?_append_singleton, value?_append_singleton, hlast, hbefore]
    cases isNamed key v <;> rfl

/-! ## Lists with the same values -/

section Same
variable {a b : Environment}

/-- The variables, with their names in lower case. -/
def lowered (env : Environment) : Environment :=
  env.map fun v => (Text.lowercase v.1, v.2)

/-- Whether a variable is called like one of the settings. -/
def isSetting (assignment : String × String) : Bool :=
  Text.lowercase assignment.1 ∈ settingKeys

/-- A change of order keeps the variables. -/
theorem mem_of_order
    (horder : ∀ name, (a.filter fun v => v.1 = name) = b.filter fun v => v.1 = name)
    (v : String × String) : v ∈ b ↔ v ∈ a := by
  have hsame : v ∈ (a.filter fun w => w.1 = v.1) ↔ v ∈ b.filter fun w => w.1 = v.1 := by
    rw [horder]
  simpa using hsame.symm

/-- Where no name is repeated, no two variables give something for one setting. -/
theorem given?_eq_none_of_distinct (ha : a.Unambiguous) (hdistinct : (a.map Prod.fst).Nodup)
    {key : String} (hkey : key ∈ settingKeys) {v w : String × String} (hv : v ∈ a) (hw : w ∈ a) :
    v = w ∨ given? key v = none ∨ given? key w = none := by
  have hgives : ∀ u ∈ a, given? key u ≠ none → Text.lowercase u.1 = key := by
    intro u hu hgives
    rw [given?_of_not_isPart hkey (ha.noParts u hu)] at hgives
    simpa [isNamed] using hgives
  by_cases hfirst : given? key v = none
  · exact .inr (.inl hfirst)
  by_cases hsecond : given? key w = none
  · exact .inr (.inr hsecond)
  -- both are called like the key, so they have one name
  have hlower := (hgives v hv hfirst).trans (hgives w hw hsecond).symm
  exact .inl (List.inj_on_of_nodup_map hdistinct hv hw (ha.oneSpelling v hv w hw hlower))

/-- Moving variables of different names past each other keeps the values. -/
theorem value?_eq_of_order (ha : a.Unambiguous)
    (horder : ∀ name, (a.filter fun v => v.1 = name) = b.filter fun v => v.1 = name)
    (key : String) : a.value? key = b.value? key := by
  have hmem := mem_of_order horder
  unfold value?
  by_cases hset : ∃ v ∈ a, isNamed key v = true
  · obtain ⟨v, hv, hnamed⟩ := hset
    have hkey : Text.lowercase v.1 = key := by simpa [isNamed] using hnamed
    -- the key has one spelling only, so its variables are those of one name
    have hspelled : ∀ w ∈ a, isNamed key w = decide (w.1 = v.1) := by
      intro w hw
      by_cases hname : w.1 = v.1
      · simp [isNamed, hname, hkey]
      · have hother : Text.lowercase w.1 ≠ key := by
          intro hlower
          exact hname (ha.oneSpelling w hw v hv (hlower.trans hkey.symm))
        simp [isNamed, hname, hother]
    have hleft := List.filter_congr hspelled
    have hright := List.filter_congr (l := b) fun w hw => hspelled w ((hmem w).mp hw)
    rw [hleft, hright, horder]
  -- no variable sets the key in one list, so none does in the other
  · have hnone : ∀ w ∈ a, ¬ isNamed key w = true := fun w hw hnamed => hset ⟨w, hw, hnamed⟩
    have hleft := List.filter_eq_nil_iff.mpr hnone
    have hright := List.filter_eq_nil_iff.mpr fun w hw => hnone w ((hmem w).mp hw)
    rw [hleft, hright]

theorem value?_eq_lowered (env : Environment) (key : String) :
    env.value? key = ((env.lowered.filter fun v => v.1 = key).getLast?).map Prod.snd := by
  unfold value? lowered
  rw [List.filter_map, List.getLast?_map, Option.map_map]
  rfl

/-- Names that are equal in lower case have the same value. -/
theorem value?_eq_of_lowered (hcase : a.lowered = b.lowered) (key : String) :
    a.value? key = b.value? key := by
  rw [value?_eq_lowered, value?_eq_lowered, hcase]

/-- The values of the settings do not depend on other variables. -/
theorem value?_eq_of_settings (hsettings : a.filter isSetting = b.filter isSetting) {key : String}
    (hkey : key ∈ settingKeys) : a.value? key = b.value? key := by
  have hfilter : ∀ env : Environment,
      env.filter (isNamed key) = (env.filter isSetting).filter (isNamed key) := by
    intro env
    rw [List.filter_filter]
    apply List.filter_congr
    intro v _
    cases hnamed : isNamed key v with
    | false => rfl
    | true =>
      have hlower : Text.lowercase v.1 = key := by simpa [isNamed] using hnamed
      simp [isSetting, hlower, hkey]
  unfold value?
  rw [hfilter a, hfilter b, hsettings]

end Same

end Environment

/-! ## Loading -/

namespace Settings

/-- Settings that are loaded are those that were read, and their write path is accepted. -/
theorem load_eq_ok_iff (env : Environment) (settings : Settings) :
    load env = .ok settings ↔
      readAll env = .ok settings ∧ WritePath.check settings.writePath = .ok () := by
  unfold load
  cases hread : readAll env with
  | error fault => simp
  | ok read =>
    simp only [Except.ok.injEq]
    constructor
    · intro hload
      cases hcheck : WritePath.check read.writePath with
      | error fault =>
        rw [hcheck] at hload
        cases hload
      | ok accepted =>
        rw [hcheck] at hload
        obtain rfl := Except.ok.inj hload
        exact ⟨rfl, hcheck⟩
    · rintro ⟨rfl, haccepted⟩
      rw [haccepted]

/-- Loading asks for the eight keys and nothing else. -/
theorem load_congr {a b : Environment} (h : ∀ key ∈ settingKeys, a.find? key = b.find? key) :
    load a = load b := by
  have hentry : ∀ key ∈ settingKeys, a.collect.lookup? key = b.collect.lookup? key := by
    intro key hkey
    have hshape := ofName_of_mem_settingKeys key hkey
    rw [Environment.lookup?_collect hshape, Environment.lookup?_collect hshape, h key hkey]
  have hread : readAll a = readAll b := by
    simp only [settingKeys, List.forall_mem_cons, List.not_mem_nil, false_imp_iff, implies_true,
      and_true] at hentry
    obtain ⟨hhost, hport, hpath, hseed, hname, htelemetry, hotlpHost, hotlpPort⟩ := hentry
    simp only [readAll, readTable, readKey, hhost, hport, hpath, hseed, hname, htelemetry, hotlpHost,
      hotlpPort]
  unfold load
  rw [hread]

/-- Both lists give the same settings, or neither gives any. -/
def LoadAlike (a b : Environment) : Prop :=
  (∃ settings, load a = .ok settings ∧ load b = .ok settings) ∨
    ∃ fault other, load a = .error fault ∧ load b = .error other

theorem loadAlike_of_find? {a b : Environment} (h : ∀ key ∈ settingKeys, a.find? key = b.find? key) :
    LoadAlike a b := by
  have hload := load_congr h
  cases hother : load b with
  | ok settings => exact .inl ⟨settings, hload.trans hother, hother⟩
  | error fault => exact .inr ⟨fault, fault, hload.trans hother, hother⟩

theorem loadAlike_of_values {a b : Environment} (ha : a.Unambiguous) (hb : b.Unambiguous)
    (h : ∀ key ∈ settingKeys, a.value? key = b.value? key) : LoadAlike a b := by
  refine loadAlike_of_find? ?_
  intro key hkey
  rw [Environment.find?_eq_value? hkey a ha.noParts, Environment.find?_eq_value? hkey b hb.noParts,
    h key hkey]

theorem loadAlike_of_order {a b : Environment} (ha : a.Unambiguous)
    (horder : ∀ name, (a.filter fun v => v.1 = name) = b.filter fun v => v.1 = name) :
    LoadAlike a b := by
  have hb : b.Unambiguous := ha.of_subset fun v hv => (Environment.mem_of_order horder v).mp hv
  exact loadAlike_of_values ha hb fun key _ => Environment.value?_eq_of_order ha horder key

/-- What may change about a list of variables while the settings stay what they are. -/
structure DependOnValuesAlone (a : Environment) : Prop where
  /-- Everything, as long as the values of the eight keys stay. -/
  values : ∀ b : Environment, b.Unambiguous →
    (∀ key ∈ settingKeys, a.value? key = b.value? key) → LoadAlike a b
  /-- The order, as long as the assignments to one name follow each other as before. -/
  order : ∀ b : Environment,
    (∀ name, (a.filter fun v => v.1 = name) = b.filter fun v => v.1 = name) → LoadAlike a b
  /-- In particular any order, where no name is repeated. -/
  permutation : ∀ b : Environment, (a.map Prod.fst).Nodup → a.Perm b → LoadAlike a b
  /-- The letter case of the names. -/
  letterCase : ∀ b : Environment, b.Unambiguous → a.lowered = b.lowered → LoadAlike a b
  /-- The variables that are called like none of the keys. -/
  unrelated : ∀ b : Environment, b.Unambiguous →
    a.filter Environment.isSetting = b.filter Environment.isSetting → LoadAlike a b

/-- Settings depend on the values of their eight keys and on nothing else about the variables. -/
theorem settings_depend_on_values_alone {a : Environment} (ha : a.Unambiguous) :
    DependOnValuesAlone a where
  values := fun b hb => loadAlike_of_values ha hb
  order := fun b => loadAlike_of_order ha
  permutation := by
    intro b hdistinct hperm
    -- variables under different keys do not get in each other's way
    refine loadAlike_of_find? fun key hkey => ?_
    exact Environment.find?_eq_of_perm (ofName_of_mem_settingKeys key hkey) hperm
      fun v hv w hw => Environment.given?_eq_none_of_distinct ha hdistinct hkey hv hw
  letterCase := by
    intro b hb hcase
    exact loadAlike_of_values ha hb fun key _ => Environment.value?_eq_of_lowered hcase key
  unrelated := by
    intro b hb hsettings
    exact loadAlike_of_values ha hb fun key => Environment.value?_eq_of_settings hsettings

/-- A port in another letter case among other variables, one of them named like a path. -/
theorem respelled_port_loads_alike :
    Environment.Unambiguous [("HTTP_PORT", "8081"), ("foo.bar[3]", "x")] ∧
      Environment.Unambiguous [("unused", "on"), ("Http_Port", "8081")] ∧
        LoadAlike [("HTTP_PORT", "8081"), ("foo.bar[3]", "x")]
          [("unused", "on"), ("Http_Port", "8081")] := by
  have ha : Environment.Unambiguous [("HTTP_PORT", "8081"), ("foo.bar[3]", "x")] :=
    ⟨by decide, by decide⟩
  have hb : Environment.Unambiguous [("unused", "on"), ("Http_Port", "8081")] :=
    ⟨by decide, by decide⟩
  exact ⟨ha, hb, (settings_depend_on_values_alone ha).values _ hb (by decide)⟩

end Settings

end SignalStub
