import SignalStub.Proofs.CommandLine.Attached
import SignalStub.Proofs.CommandLine.Repetition
import SignalStub.Proofs.Settings.Port

/-! # Options in every spelling

    An option of `listen` is spelled in one argument or in two, by its long name or by its short one.
    However it is spelled, its value is stored behind the values before it. The spellings differ in
    when this happens: an attached value is stored at once, and a value in an argument of its own
    waits until the next option or the end is reached.

    So reading options in a row is storing what waits, and then storing their values in a row. This is
    the invariant of the induction on the options, and it no longer speaks of spellings. What is
    stored in the end are the values of distinct options, or a fault if one of them is given twice.
-/

namespace SignalStub.CommandLine

open Number

/-! ## Options as they are spelled -/

/-- An argument that does not begin like an option. -/
def IsValue (argument : String) : Prop :=
  argument.toList.head? ≠ some '-'

/-- A text for a port, which may stand in an argument of its own. -/
structure PortText where
  text : String
  port : UInt16
  reads : readPort text = .ok port
  isValue : IsValue text

/-- Every port has its decimal text. -/
def PortText.decimal (port : UInt16) : PortText where
  text := integerText port.toNat
  port := port
  reads := by
    have hport : IsPort port.toNat := by
      have hsize := port.toNat_lt
      unfold IsPort
      omega
    rw [readPort_of_isPort hport, Int.toNat_natCast, UInt16.ofNat_toNat]
  isValue := by
    intro hdash
    have htext : (integerText port.toNat).toList = Nat.toDigits 10 port.toNat := Nat.toList_repr
    rw [htext] at hdash
    exact absurd ((isDigits_toDigits _).2 '-' (List.mem_of_head? hdash)) (by decide)

/-- The spellings of a host. -/
inductive HostSpelling
  /-- `--host h` -/
  | separate
  /-- `--host=h` -/
  | attached
  deriving DecidableEq, Repr

/-- The spellings of a port. -/
inductive PortSpelling
  /-- `--port p` -/
  | separate
  /-- `--port=p` -/
  | attached
  /-- `-p p` -/
  | shortSeparate
  /-- `-pp`, the value right behind the letter -/
  | shortAttached
  /-- `-p=p` -/
  | shortAssigned
  deriving DecidableEq, Repr

/-- An option with its value, in one of its spellings. A host in an argument of its own may not look
    like an option. -/
inductive Choice
  | host (value : String) (spelling : HostSpelling) (h : spelling = .separate → IsValue value)
  | port (value : PortText) (spelling : PortSpelling)

namespace Choice

/-- The arguments that spell an option. -/
def arguments : Choice → List String
  | .host value .separate _ => ["--host", value]
  | .host value .attached _ => ["--host=" ++ value]
  | .port value .separate => ["--port", value.text]
  | .port value .attached => ["--port=" ++ value.text]
  | .port value .shortSeparate => ["-p", value.text]
  | .port value .shortAttached => ["-p" ++ value.text]
  | .port value .shortAssigned => ["-p=" ++ value.text]

/-- The option itself. -/
def opt : Choice → Opt
  | .host _ _ _ => .host
  | .port _ _ => .port

/-- The value as a text. -/
def text : Choice → String
  | .host value _ _ => value
  | .port value _ => value.text

/-- The host that is chosen. -/
def host? : Choice → Option String
  | .host value _ _ => some value
  | .port _ _ => none

/-- The port that is chosen. -/
def port? : Choice → Option UInt16
  | .host _ _ _ => none
  | .port value _ => some value.port

end Choice

/-- The arguments of all options. -/
def argumentsOf (choices : List Choice) : List String :=
  choices.flatMap Choice.arguments

/-- What the options give. -/
def given (choices : List Choice) : ListenArgs where
  host := choices.findSome? Choice.host?
  port := choices.findSome? Choice.port?

/-! ## Spellings by the number of arguments -/

/-- An argument that names an option and leaves its value to the next one. -/
structure Awaits (argument : String) (opt : Opt) : Prop where
  named : named? argument = some opt
  next : ∀ scan : ListenScan, scan.next argument = (scan.await opt).mapError .usage

/-- An argument that names an option and has its value attached. -/
structure Attaches (argument : String) (opt : Opt) (value : String) : Prop where
  named : named? argument = some opt
  next : ∀ scan : ListenScan, scan.next argument = (scan.attach opt value).mapError .usage

theorem ne_mark_of_named {argument : String} {opt : Opt} (h : named? argument = some opt) :
    argument ≠ "--" := by
  rintro rfl
  cases h

theorem ofArgument_of_isValue {argument : String} (h : IsValue argument) :
    Token.ofArgument argument = .plain := by
  unfold IsValue at h
  unfold Token.ofArgument
  cases hcs : argument.toList with
  | nil => rfl
  | cons c cs =>
    rw [hcs] at h
    have hc : c ≠ '-' := fun hdash => h (congrArg some hdash)
    split
    next heq => exact absurd (List.cons.inj heq).1 hc
    next heq => exact absurd (List.cons.inj heq).1 hc
    next heq => exact absurd (List.cons.inj heq).1 hc
    next => rfl

/-- A text for a port is not empty, and nothing in it is taken for the sign before a value. -/
theorem PortText.attachedValue_eq (value : PortText) :
    value.text.toList.isEmpty = false ∧ attachedValue value.text.toList = value.text := by
  have hreads := value.reads
  unfold readPort at hreads
  cases hread : readInt64 value.text.toList with
  | error fault =>
    rw [hread] at hreads
    cases hreads
  | ok n =>
    obtain ⟨⟨hnonempty, hdigits⟩, -, -⟩ := (readInt64_eq_ok_iff _ n).mp hread
    have htext : String.ofList value.text.toList = value.text := String.ofList_toList
    cases hcs : value.text.toList with
    | nil =>
      rw [hcs] at hnonempty
      exact absurd rfl hnonempty
    | cons c cs =>
      have hc : c ≠ '=' := by
        rintro rfl
        rw [hcs, splitSign_of_unsigned (by decide) (by decide)] at hdigits
        exact absurd (hdigits '=' List.mem_cons_self) (by decide)
      refine ⟨rfl, ?_⟩
      rw [← htext, hcs]
      unfold attachedValue
      split
      next heq => exact absurd (List.cons.inj heq).1 hc
      next => rfl

theorem awaits_longName (opt : Opt) : Awaits ("--" ++ opt.longName) opt := by
  cases opt <;> exact ⟨rfl, fun _ => rfl⟩

theorem awaits_short : Awaits "-p" .port :=
  ⟨rfl, fun _ => rfl⟩

theorem attaches_attached (opt : Opt) (value : String) :
    Attaches (opt.attached value) opt value := by
  refine ⟨?_, fun scan => next_attached scan opt value⟩
  unfold named?
  rw [ofArgument_attached]
  cases opt <;> rfl

/-- A value behind the letter of the port, with or without a sign between them. -/
theorem attaches_short {argument : String} {cs : List Char}
    (hargument : argument.toList = '-' :: 'p' :: cs) (hnonempty : cs.isEmpty = false) :
    Attaches argument .port (attachedValue cs) := by
  have htoken : Token.ofArgument argument = .short 'p' cs := by
    unfold Token.ofArgument
    rw [hargument]
    rfl
  refine ⟨?_, ?_⟩
  · unfold named?
    rw [htoken]
    rfl
  · intro scan
    unfold ListenScan.next
    rw [htoken]
    dsimp only
    rw [if_pos rfl, if_neg (by rw [hnonempty]; exact Bool.false_ne_true)]

/-- An option is spelled in two arguments, of which the second is its value, or in one. -/
theorem Choice.spelled (choice : Choice) :
    (∃ flag, choice.arguments = [flag, choice.text] ∧ Awaits flag choice.opt ∧
        IsValue choice.text) ∨
      ∃ argument, choice.arguments = [argument] ∧
        Attaches argument choice.opt choice.text := by
  cases choice with
  | host value spelling h =>
    cases spelling with
    | separate => exact .inl ⟨_, rfl, awaits_longName .host, h rfl⟩
    | attached => exact .inr ⟨_, rfl, attaches_attached .host value⟩
  | port value spelling =>
    obtain ⟨hnonempty, hvalue⟩ := value.attachedValue_eq
    cases spelling with
    | separate => exact .inl ⟨_, rfl, awaits_longName .port, value.isValue⟩
    | attached => exact .inr ⟨_, rfl, attaches_attached .port value.text⟩
    | shortSeparate => exact .inl ⟨_, rfl, awaits_short, value.isValue⟩
    | shortAttached =>
      have hargument : ("-p" ++ value.text).toList = '-' :: 'p' :: value.text.toList :=
        String.toList_append
      have hshort := attaches_short hargument hnonempty
      rw [hvalue] at hshort
      exact .inr ⟨_, rfl, hshort⟩
    | shortAssigned =>
      have hargument : ("-p=" ++ value.text).toList = '-' :: 'p' :: '=' :: value.text.toList :=
        String.toList_append
      have hassigned : attachedValue ('=' :: value.text.toList) = value.text :=
        String.ofList_toList
      have hshort := attaches_short hargument rfl
      rw [hassigned] at hshort
      exact .inr ⟨_, rfl, hshort⟩

/-! ## Reading and storing -/

namespace ListenScan

variable {scan : ListenScan}

/-- An option whose value follows it leaves the value to wait. -/
theorem run_awaits {flag value : String} {opt : Opt} (hflag : Awaits flag opt)
    (hvalue : IsValue value) (rest : List String) :
    scan.run (flag :: value :: rest) =
      match scan.settle with
      | .error fault => .error (.usage fault)
      | .ok settled => { settled with pending := .filled opt value }.run rest := by
  have hplain := ofArgument_of_isValue hvalue
  have hmark : value ≠ "--" := by
    rintro rfl
    cases hplain
  rw [run_cons (ne_mark_of_named hflag.named), hflag.next, await]
  cases scan.settle with
  | error fault => rfl
  | ok settled =>
    show ListenScan.run { settled with pending := .awaiting opt } (value :: rest) = _
    rw [run_cons hmark, ListenScan.next, hplain]
    rfl

/-- An option with its value attached is stored at once. -/
theorem run_attaches {argument value : String} {opt : Opt} (h : Attaches argument opt value)
    (rest : List String) :
    scan.run (argument :: rest) =
      match scan.attach opt value with
      | .error fault => .error (.usage fault)
      | .ok read => read.run rest := by
  rw [run_cons (ne_mark_of_named h.named), h.next]
  cases scan.attach opt value <;> rfl

theorem settle_filled (hnone : scan.pending = .none) (opt : Opt) (value : String) :
    settle { scan with pending := .filled opt value } = scan.store opt value := by
  obtain ⟨args, pending, stored⟩ := scan
  obtain rfl : pending = .none := hnone
  rfl

/-- Stores the values of options, one after the other. -/
def storeAll : ListenScan → List Choice → Except UsageFault ListenScan
  | scan, [] => .ok scan
  | scan, choice :: choices =>
    match scan.store choice.opt choice.text with
    | .error fault => .error fault
    | .ok stored => stored.storeAll choices

/-- Options in a row, in whatever spellings, are read as their values are stored. -/
theorem run_argumentsOf (choices : List Choice) (scan : ListenScan) :
    scan.run (argumentsOf choices) =
      match scan.settle with
      | .error fault => .error (.usage fault)
      | .ok settled => ((settled.storeAll choices).map ListenScan.args).mapError .usage := by
  induction choices generalizing scan with
  | nil =>
    rw [argumentsOf, List.flatMap_nil, run]
    cases scan.settle <;> rfl
  | cons choice choices ih =>
    have harguments : argumentsOf (choice :: choices) = choice.arguments ++ argumentsOf choices :=
      List.flatMap_cons
    rcases choice.spelled with ⟨flag, hspelled, hflag, hvalue⟩ | ⟨argument, hspelled, hattaches⟩
    -- the value waits, and is stored by whatever comes next
    · rw [harguments, hspelled, List.cons_append, List.singleton_append, run_awaits hflag hvalue]
      cases hsettle : scan.settle with
      | error fault => rfl
      | ok settled =>
        have hnone := (timesNamed_settle hsettle).1
        dsimp only
        rw [ih, settle_filled hnone, storeAll]
        cases settled.store choice.opt choice.text <;> rfl
    -- the value is stored at once, and nothing waits behind it
    · rw [harguments, hspelled, List.singleton_append, run_attaches hattaches, attach]
      cases hsettle : scan.settle with
      | error fault => rfl
      | ok settled =>
        have hnone := (timesNamed_settle hsettle).1
        dsimp only
        rw [storeAll]
        cases hstore : settled.store choice.opt choice.text with
        | error fault => rfl
        | ok stored =>
          have hstored : stored.pending = .none := (store_eq_ok hstore).2.1.trans hnone
          have hnothing : stored.settle = .ok stored := by rw [settle, hstored]
          dsimp only
          rw [ih, hnothing]

/-- The value is stored if the option has none yet. -/
theorem store_choice (choice : Choice) (scan : ListenScan) :
    scan.store choice.opt choice.text =
      if scan.args.has choice.opt = true then .error (.repeated choice.opt)
      else .ok { scan with
        args := ⟨scan.args.host.or choice.host?, scan.args.port.or choice.port?⟩
        stored := scan.stored ++ [choice.opt] } := by
  obtain ⟨⟨host, port⟩, pending, stored⟩ := scan
  cases choice with
  | host value spelling h =>
    cases host with
    | some _ => rfl
    | none => cases port <;> rfl
  | port value spelling =>
    cases port with
    | some _ => rfl
    | none =>
      show store ⟨⟨host, none⟩, pending, stored⟩ .port value.text = _
      rw [store, value.reads]
      cases host <;> rfl

/-- How often an option is given, by a value that is stored or by an option that is to come. -/
def timesGiven (scan : ListenScan) (choices : List Choice) (opt : Opt) : Nat :=
  (scan.args.has opt).toNat + (choices.map Choice.opt).count opt

theorem timesGiven_store {stored : ListenScan} {choice : Choice}
    (h : scan.store choice.opt choice.text = .ok stored) (choices : List Choice) (opt : Opt) :
    stored.timesGiven choices opt = scan.timesGiven (choice :: choices) opt := by
  obtain ⟨hvacant, -, hhas⟩ := store_eq_ok h
  unfold timesGiven
  rw [hhas, List.map_cons, List.count_cons]
  by_cases hsame : choice.opt = opt
  · subst hsame
    simp [hvacant]
    omega
  · simp [hsame]

/-- The values are all stored, unless an option is given twice. -/
theorem storeAll_eq (choices : List Choice) (scan : ListenScan) :
    (∃ opt, 2 ≤ scan.timesGiven choices opt ∧ scan.storeAll choices = .error (.repeated opt)) ∨
      ∃ stored, scan.storeAll choices = .ok stored ∧
        (∀ opt, scan.timesGiven choices opt = (stored.args.has opt).toNat) ∧
        stored.args = ⟨scan.args.host.or (choices.findSome? Choice.host?),
          scan.args.port.or (choices.findSome? Choice.port?)⟩ := by
  induction choices generalizing scan with
  | nil =>
    refine .inr ⟨scan, rfl, fun _ => rfl, ?_⟩
    rw [List.findSome?_nil, List.findSome?_nil, Option.or_none, Option.or_none]
  | cons choice choices ih =>
    have hstore := store_choice choice scan
    rw [storeAll]
    by_cases hgiven : scan.args.has choice.opt = true
    · rw [if_pos hgiven] at hstore
      rw [hstore]
      refine .inl ⟨choice.opt, ?_, rfl⟩
      rw [timesGiven, hgiven, List.map_cons, List.count_cons_self, Bool.toNat_true]
      omega
    · rw [if_neg hgiven] at hstore
      -- the option is given as often as before, now by a value that is stored
      have hgive := timesGiven_store hstore choices
      have hfind {α : Type} (f : Choice → Option α) :
          (choice :: choices).findSome? f = (f choice).or (choices.findSome? f) := by
        rw [List.findSome?_cons]
        cases f choice <;> rfl
      rw [hstore]
      simp only [← hgive, hfind, ← Option.or_assoc]
      exact ih _

/-- Before anything is read, the values are all stored or an option is given twice. -/
theorem storeAll_start (choices : List Choice) :
    (∃ opt, 2 ≤ (choices.map Choice.opt).count opt ∧
        start.storeAll choices = .error (.repeated opt)) ∨
      (choices.map Choice.opt).Nodup ∧
        (start.storeAll choices).map ListenScan.args = .ok (CommandLine.given choices) := by
  have htimes (opt : Opt) : start.timesGiven choices opt = (choices.map Choice.opt).count opt := by
    cases opt <;> exact Nat.zero_add _
  rcases storeAll_eq choices start with ⟨opt, htwice, herror⟩ | ⟨stored, hok, honce, hargs⟩
  · rw [htimes] at htwice
    exact .inl ⟨opt, htwice, herror⟩
  · refine .inr ⟨List.nodup_iff_count.mpr ?_, ?_⟩
    · intro opt
      rw [← htimes, honce]
      exact Bool.toNat_le _
    · rw [hok]
      exact congrArg Except.ok hargs

end ListenScan

/-! ## Command lines -/

variable {choices : List Choice}

theorem parse_listen (arguments : List String) :
    parse ("listen" :: arguments) = (ListenScan.start.run arguments).map some := by
  rw [parse, if_pos rfl]

theorem run_start (choices : List Choice) :
    ListenScan.start.run (argumentsOf choices) =
      ((ListenScan.start.storeAll choices).map ListenScan.args).mapError .usage :=
  ListenScan.run_argumentsOf choices ListenScan.start

/-- Distinct options are read as they are given, in every order and every spelling. -/
theorem parse_argumentsOf (hdistinct : (choices.map Choice.opt).Nodup) :
    parse ("listen" :: argumentsOf choices) = .ok (some (given choices)) := by
  rcases ListenScan.storeAll_start choices with ⟨opt, htwice, -⟩ | ⟨-, hstored⟩
  · exact absurd (List.nodup_iff_count.mp hdistinct opt) (by omega)
  · rw [parse_listen, run_start, hstored]
    rfl

/-- An option that is given twice is the fault. -/
theorem parse_repeated (hrepeated : ¬ (choices.map Choice.opt).Nodup) :
    ∃ opt, 2 ≤ (choices.map Choice.opt).count opt ∧
      parse ("listen" :: argumentsOf choices) = .error (.usage (.repeated opt)) := by
  rcases ListenScan.storeAll_start choices with ⟨opt, htwice, herror⟩ | ⟨hdistinct, -⟩
  · refine ⟨opt, htwice, ?_⟩
    rw [parse_listen, run_start, herror]
    rfl
  · exact absurd hdistinct hrepeated

theorem Choice.one_le_countP (choice : Choice) :
    1 ≤ choice.arguments.countP (fun argument => named? argument = some choice.opt) := by
  rw [Nat.one_le_iff_ne_zero, ← Nat.pos_iff_ne_zero, List.countP_pos_iff]
  rcases choice.spelled with ⟨flag, hspelled, hflag, -⟩ | ⟨argument, hspelled, hattaches⟩
  · exact ⟨flag, by rw [hspelled]; exact List.mem_cons_self, decide_eq_true hflag.named⟩
  · exact ⟨argument, by rw [hspelled]; exact List.mem_cons_self, decide_eq_true hattaches.named⟩

/-- An option that is given twice ends the reading, whatever the other arguments are. -/
theorem parse_twice {first second : Choice} (hsame : first.opt = second.opt)
    (before between behind : List String) :
    ∃ stop, parse ("listen" :: (before ++ first.arguments ++ between ++ second.arguments ++
      behind)) = .error stop := by
  rw [parse_listen]
  cases hrun : ListenScan.start.run
    (before ++ first.arguments ++ between ++ second.arguments ++ behind) with
  | error stop => exact ⟨stop, rfl⟩
  | ok args =>
    have htimes := ListenScan.timesNamed_run hrun second.opt
    -- each of the two names the option, which is once more than a reading allows
    have hfirst := first.one_le_countP
    have hsecond := second.one_le_countP
    have hhas := Bool.toNat_le (args.has second.opt)
    rw [hsame] at hfirst
    simp only [List.countP_append] at htimes
    omega

end SignalStub.CommandLine
