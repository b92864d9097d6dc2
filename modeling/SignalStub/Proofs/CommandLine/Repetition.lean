import SignalStub.CommandLine.Parse
import SignalStub.Proofs.Outcome

/-! # Options that are given twice

    No option is read twice, whatever stands between the two. A value in an argument of its own is
    not stored before the next option or the end is reached, so the second of two values may still
    wait when the first has long been stored.

    The invariant counts both: an option is named as often as it has a value, plus once more if its
    value waits. Every argument adds one to the count of the option that it names, and nothing to the
    other. At the end nothing waits, so the count is one or zero.
-/

namespace SignalStub.CommandLine

/-! ## Options as they are named -/

/-- The option that an argument names by its looks. -/
def Token.opt? : Token → Option Opt
  | .long name _ => ListenScan.longOpt? name
  | .short c _ => if c = 'p' then some .port else none
  | .dashes | .plain => none

/-- The option that an argument names. -/
def named? (argument : String) : Option Opt :=
  (Token.ofArgument argument).opt?

/-- Whether an option has a value. -/
def ListenArgs.has (args : ListenArgs) : Opt → Bool
  | .host => args.host.isSome
  | .port => args.port.isSome

/-- The option whose value is not stored yet. -/
def Pending.opt? : Pending → Option Opt
  | .none => Option.none
  | .awaiting opt | .filled opt _ => some opt

namespace ListenScan

/-- How often an option was named in what is read: its value is stored, or waits, or both. -/
def timesNamed (scan : ListenScan) (opt : Opt) : Nat :=
  (scan.args.has opt).toNat + (decide (scan.pending.opt? = some opt)).toNat

variable {scan next : ListenScan}

/-! ## What one argument adds -/

/-- A value is stored for an option that has none, and for no other. -/
theorem store_eq_ok {opt : Opt} {value : String} (h : scan.store opt value = .ok next) :
    scan.args.has opt = false ∧ next.pending = scan.pending ∧
      ∀ other, next.args.has other = (scan.args.has other || decide (opt = other)) := by
  cases opt with
  | host =>
    rw [store] at h
    by_cases hgiven : scan.args.host.isSome = true
    · rw [if_pos hgiven] at h
      cases h
    · rw [if_neg hgiven] at h
      obtain rfl := Except.ok.inj h
      refine ⟨Bool.eq_false_iff.mpr hgiven, rfl, ?_⟩
      intro other
      cases other <;> simp [ListenArgs.has]
  | port =>
    rw [store] at h
    by_cases hgiven : scan.args.port.isSome = true
    · rw [if_pos hgiven] at h
      cases h
    · rw [if_neg hgiven] at h
      cases hread : readPort value with
      | error fault =>
        rw [hread] at h
        cases h
      | ok port =>
        rw [hread] at h
        obtain rfl := Except.ok.inj h
        refine ⟨Bool.eq_false_iff.mpr hgiven, rfl, ?_⟩
        intro other
        cases other <;> simp [ListenArgs.has]

theorem timesNamed_store {opt : Opt} {value : String} (h : scan.store opt value = .ok next)
    (other : Opt) :
    next.timesNamed other = scan.timesNamed other + (decide (opt = other)).toNat := by
  obtain ⟨hvacant, hpending, hhas⟩ := store_eq_ok h
  unfold timesNamed
  rw [hpending, hhas]
  by_cases hsame : opt = other
  · subst hsame
    simp [hvacant]
    omega
  · simp [hsame]

/-- A value that waits is stored, which changes no count. -/
theorem timesNamed_settle (h : scan.settle = .ok next) :
    next.pending = .none ∧ ∀ opt, next.timesNamed opt = scan.timesNamed opt := by
  unfold settle at h
  split at h
  next hnone =>
    obtain rfl := Except.ok.inj h
    exact ⟨hnone, fun _ => rfl⟩
  next => cases h
  next waiting value hpending =>
    refine ⟨(store_eq_ok h).2.1, ?_⟩
    intro opt
    rw [timesNamed_store h]
    simp [timesNamed, hpending, Pending.opt?]

theorem timesNamed_await {opt : Opt} (h : scan.await opt = .ok next) (other : Opt) :
    next.timesNamed other = scan.timesNamed other + (decide (opt = other)).toNat := by
  obtain ⟨settled, hsettle, rfl⟩ := map_eq_ok_iff.mp h
  obtain ⟨hnone, hcount⟩ := timesNamed_settle hsettle
  rw [← hcount]
  simp [timesNamed, hnone, Pending.opt?]

theorem timesNamed_attach {opt : Opt} {value : String} (h : scan.attach opt value = .ok next)
    (other : Opt) :
    next.timesNamed other = scan.timesNamed other + (decide (opt = other)).toNat := by
  unfold attach at h
  split at h
  next settled hsettle => rw [timesNamed_store h, (timesNamed_settle hsettle).2]
  next => cases h

theorem timesNamed_plain {argument : String} (h : scan.plain argument = .ok next) (opt : Opt) :
    next.timesNamed opt = scan.timesNamed opt := by
  unfold plain at h
  split at h
  next waiting hpending =>
    obtain rfl := Except.ok.inj h
    simp [timesNamed, hpending, Pending.opt?]
  next => cases h

/-- What reading an argument can do: it goes on with the value that is awaited, or it begins with the
    option that the argument names. The mark is passed over, and any other argument ends the
    reading. -/
theorem next_cases {argument : String} (h : scan.next argument = .ok next) :
    (named? argument = none ∧ (next = scan ∨ scan.plain argument = .ok next)) ∨
      ∃ opt, named? argument = some opt ∧
        (scan.await opt = .ok next ∨ ∃ value, scan.attach opt value = .ok next) := by
  unfold ListenScan.next at h
  unfold named?
  cases htoken : Token.ofArgument argument with
  | dashes =>
    rw [htoken] at h
    exact .inl ⟨rfl, .inl (Except.ok.inj h).symm⟩
  | plain =>
    rw [htoken] at h
    exact .inl ⟨rfl, .inr (mapError_eq_ok_iff.mp h)⟩
  | short c cs =>
    rw [htoken] at h
    dsimp only at h
    by_cases hp : c = 'p'
    · rw [if_pos hp] at h
      have hscan := mapError_eq_ok_iff.mp h
      refine .inr ⟨.port, if_pos hp, ?_⟩
      by_cases hempty : cs.isEmpty = true
      · rw [if_pos hempty] at hscan
        exact .inl hscan
      · rw [if_neg hempty] at hscan
        exact .inr ⟨_, hscan⟩
    · rw [if_neg hp] at h
      by_cases hh : c = 'h'
      · rw [if_pos hh] at h
        cases h
      · rw [if_neg hh] at h
        cases h
  | long name value =>
    rw [htoken] at h
    dsimp only at h
    cases hname : longOpt? name with
    | none =>
      -- an unknown name, or the one that asks for help, ends the reading
      rw [hname] at h
      dsimp only at h
      split at h
      next =>
        cases value with
        | none => cases h
        | some text => cases h
      next => cases h
    | some known =>
      rw [hname] at h
      refine .inr ⟨known, hname, ?_⟩
      cases value with
      | none => exact .inl (mapError_eq_ok_iff.mp h)
      | some text => exact .inr ⟨text, mapError_eq_ok_iff.mp h⟩

/-- An argument adds to the count of the option that it names, and to no other. -/
theorem timesNamed_next {argument : String} (h : scan.next argument = .ok next) (opt : Opt) :
    next.timesNamed opt =
      scan.timesNamed opt + (decide (named? argument = some opt)).toNat := by
  rcases next_cases h with ⟨hnone, rfl | hplain⟩ | ⟨known, hnamed, hawait | ⟨value, hattach⟩⟩
  · rw [hnone]
    rfl
  · rw [timesNamed_plain hplain, hnone]
    rfl
  · rw [timesNamed_await hawait, hnamed]
    simp only [Option.some.injEq]
  · rw [timesNamed_attach hattach, hnamed]
    simp only [Option.some.injEq]

/-! ## What all arguments add -/

/-- Arguments are read one by one, except for the mark behind which there is no option. -/
theorem run_cons {argument : String} (hmark : argument ≠ "--") (rest : List String) :
    scan.run (argument :: rest) =
      match scan.next argument with
      | .ok read => read.run rest
      | .error stop => .error stop := by
  rw [run.eq_def]
  exact if_neg hmark

/-- A reading that ends well has read every option as often as it has a value, which is once or not
    at all. -/
theorem timesNamed_run {arguments : List String} {args : ListenArgs}
    (h : scan.run arguments = .ok args) (opt : Opt) :
    scan.timesNamed opt + arguments.countP (fun argument => named? argument = some opt) =
      (args.has opt).toNat := by
  have hsettled : ∀ {scan : ListenScan}, (scan.settle.map ListenScan.args).mapError Stop.usage =
      .ok args → scan.timesNamed opt = (args.has opt).toNat := by
    intro scan hend
    obtain ⟨settled, hsettle, rfl⟩ := map_eq_ok_iff.mp (mapError_eq_ok_iff.mp hend)
    obtain ⟨hnone, hcount⟩ := timesNamed_settle hsettle
    rw [← hcount]
    simp [timesNamed, hnone, Pending.opt?]
  induction arguments generalizing scan with
  | nil => exact hsettled h
  | cons argument rest ih =>
    by_cases hmark : argument = "--"
    -- behind the mark nothing may follow
    · subst hmark
      cases rest with
      | nil => exact hsettled h
      | cons extra rest => cases h
    · rw [run_cons hmark] at h
      cases hnext : scan.next argument with
      | error stop =>
        rw [hnext] at h
        cases h
      | ok read =>
        rw [hnext] at h
        have hrest := ih h
        rw [timesNamed_next hnext] at hrest
        rw [List.countP_cons, ← hrest]
        by_cases hnamed : named? argument = some opt
        · simp [hnamed]
          omega
        · simp [hnamed]

end ListenScan

end SignalStub.CommandLine
