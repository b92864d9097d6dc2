import SignalStub.Proofs.Settings.Slot

/-! # Where settings come from

    A setting comes from an option, from a variable or from the defaults, and the first of these that
    has a value for it decides. Of the variables it is the last that mentions the key.

    Settings that are loaded leave no further possibility. A variable that mentions a key gives it
    something, and if it is not called like the key, it gives a table or a sequence. No kind of
    setting is read from these, so the loading would have failed.
-/

namespace SignalStub

open Settings

/-! ## Variables that decide -/

namespace Environment

variable {env : Environment} {key : String}

/-- A variable that mentions a key gives something for it. -/
theorem given?_ne_none (hkey : key ∈ settingKeys) {v : String × String} (h : Mentions key v) :
    given? key v ≠ none := by
  rcases h with hname | htable | hsequence
  · rw [given?_of_named hkey hname]
    exact Option.some_ne_none _
  · simp [given?, htable]
  · simp [given?, hsequence]

/-- A scalar is given by a variable that is called like the key. -/
theorem named_of_given? {v : String × String} {scalar : Scalar}
    (h : given? key v = some (.scalar scalar)) :
    Text.lowercase v.1 = key ∧ scalar = .read v.2 := by
  unfold given? at h
  split at h
  next root hshape =>
    obtain ⟨rfl, hscalar⟩ := Option.ite_none_right_eq_some.mp h
    refine ⟨NameShape.eq_of_ofName hshape, ?_⟩
    cases hscalar
    rfl
  next root hshape =>
    obtain ⟨-, htable⟩ := Option.ite_none_right_eq_some.mp h
    cases htable
  next root hshape =>
    obtain ⟨-, hsequence⟩ := Option.ite_none_right_eq_some.mp h
    cases hsequence
  next => cases h

theorem not_mentions_of_find? (hkey : key ∈ settingKeys) (h : env.find? key = none) :
    ∀ v ∈ env, ¬ Mentions key v := by
  intro v hv hmentions
  have hnone := List.findSome?_eq_none_iff.mp h v (List.mem_reverse.mpr hv)
  exact given?_ne_none hkey hmentions hnone

theorem find?_of_not_mentions (h : ∀ v ∈ env, ¬ Mentions key v) : env.find? key = none :=
  List.findSome?_eq_none_iff.mpr fun v hv =>
    given?_of_not_mentions (h v (List.mem_reverse.mp hv))

/-- What is found as a scalar is the value that the key is set to. -/
theorem exists_sets_of_find? (hkey : key ∈ settingKeys) {scalar : Scalar}
    (h : env.find? key = some (.scalar scalar)) :
    ∃ value, scalar = .read value ∧ env.Sets key value := by
  -- the search begins with the last variable, so what it has passed stands behind the one it finds
  obtain ⟨after, v, before, hsplit, hgiven, hnone⟩ := List.findSome?_eq_some_iff.mp h
  obtain ⟨hname, hread⟩ := named_of_given? hgiven
  have henv : env = before.reverse ++ v :: after.reverse := by
    rw [← env.reverse_reverse, hsplit, List.reverse_append, List.reverse_cons, List.append_assoc,
      List.singleton_append]
  refine ⟨v.2, hread, before.reverse, v.1, after.reverse, henv, hname, ?_⟩
  intro w hw hmentions
  exact given?_ne_none hkey hmentions (hnone w (List.mem_reverse.mp hw))

end Environment

/-! ## The order of precedence -/

namespace Settings

/-- Every kind of setting is read from a scalar. -/
theorem Kind.exists_scalar_of_read {kind : Kind} {key : String} {entry : Entry}
    {value : kind.Value} (h : kind.read key entry = .ok value) :
    ∃ scalar, entry = .scalar scalar := by
  cases entry with
  | scalar scalar => exact ⟨scalar, rfl⟩
  | table => cases kind <;> cases h
  | sequence => cases kind <;> cases h

variable {kind : Kind}

/-- The value that a setting has by the order of precedence, if an option gives `given`. -/
inductive Origin (slot : Slot kind) (given : Option kind.Value) (env : Environment) :
    kind.Value → Prop
  /-- An option decides first. -/
  | option {value : kind.Value} : given = some value → Origin slot given env value
  /-- Without one, the last variable that mentions the key decides. -/
  | environment {text : String} {value : kind.Value} : given = none → env.Sets slot.key text →
      kind.read slot.key (.scalar (.read text)) = .ok value → Origin slot given env value
  /-- Without either, the setting has its default. -/
  | fallback : given = none → (∀ v ∈ env, ¬ Environment.Mentions slot.key v) →
      Origin slot given env (slot.get default)

/-- By the order of precedence, every setting has exactly the value that an option gives it, or that
    was loaded. -/
theorem origin_iff {env : Environment} {s : Settings} (h : load env = .ok s) (slot : Slot kind)
    (given : Option kind.Value) (value : kind.Value) :
    Origin slot given env value ↔ value = given.getD (slot.get s) := by
  have hload := load_of_readAll ((load_eq_ok_iff _ _).mp h).1 slot
  rw [Slot.load_eq] at hload
  constructor
  · intro horigin
    cases horigin with
    | option hgiven => rw [hgiven, Option.getD_some]
    | environment hgiven hsets hread =>
      rw [hsets.find? slot.key_mem] at hload
      rw [hgiven, Option.getD_none]
      exact Except.ok.inj (hread.symm.trans hload)
    | fallback hgiven hunmentioned =>
      rw [Environment.find?_of_not_mentions hunmentioned] at hload
      rw [hgiven, Option.getD_none]
      exact Except.ok.inj hload
  · rintro rfl
    cases hgiven : given with
    | some chosen => exact .option rfl
    | none =>
      rw [Option.getD_none]
      cases hfind : env.find? slot.key with
      | none =>
        rw [hfind] at hload
        obtain hdefault := Except.ok.inj hload
        rw [← hdefault]
        exact .fallback rfl (Environment.not_mentions_of_find? slot.key_mem hfind)
      -- what was found has been read, so it is a scalar
      | some entry =>
        rw [hfind] at hload
        obtain ⟨scalar, rfl⟩ := Kind.exists_scalar_of_read hload
        obtain ⟨text, rfl, hsets⟩ := Environment.exists_sets_of_find? slot.key_mem hfind
        exact .environment rfl hsets hload

end Settings

end SignalStub
