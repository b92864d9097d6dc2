import SignalStub.CommandLine.Parse

/-! # Options with attached values

    A value that is attached to its option by an equals sign is taken as it stands: it may be empty,
    look like another option or hold further equals signs. A host is stored without a look at it, and
    a port if it reads as one. So what a command line makes of one option is what storing makes of
    its value.
-/

namespace SignalStub.CommandLine

/-! ## One option -/

/-- A long option with its value attached. -/
def Opt.attached : Opt → String → String
  | .host, value => "--host=" ++ value
  | .port, value => "--port=" ++ value

/-- The name of a long option. -/
def Opt.longName : Opt → String
  | .host => "host"
  | .port => "port"

theorem ofArgument_attached (opt : Opt) (value : String) :
    Token.ofArgument (opt.attached value) = .long opt.longName (some value) := by
  have hargument : (opt.attached value).toList =
      '-' :: '-' :: (opt.longName.toList ++ '=' :: value.toList) := by
    cases opt <;> exact String.toList_append
  have htoken : Token.ofArgument (opt.attached value) =
      .long opt.longName (some (String.ofList value.toList)) := by
    unfold Token.ofArgument
    rw [hargument]
    cases opt <;> rfl
  rw [htoken, String.ofList_toList]

theorem attached_ne_dashes (opt : Opt) (value : String) : opt.attached value ≠ "--" := by
  intro h
  have htoken := ofArgument_attached opt value
  rw [h] at htoken
  cases htoken

theorem next_attached (scan : ListenScan) (opt : Opt) (value : String) :
    scan.next (opt.attached value) = (scan.attach opt value).mapError .usage := by
  unfold ListenScan.next
  rw [ofArgument_attached]
  cases opt <;> rfl

/-- A command line of one option stands and falls with its value. -/
theorem parse_attached (opt : Opt) (value : String) :
    parse ["listen", opt.attached value] =
      match ListenScan.start.store opt value with
      | .error fault => .error (.usage fault)
      | .ok scan => (scan.settle.map fun scan => some scan.args).mapError .usage := by
  have hlisten : parse ["listen", opt.attached value] =
      (ListenScan.start.run [opt.attached value]).map some := rfl
  have hattach : ListenScan.start.attach opt value = ListenScan.start.store opt value := rfl
  rw [hlisten, ListenScan.run, if_neg (attached_ne_dashes opt value), next_attached, hattach]
  cases ListenScan.start.store opt value with
  | error fault => rfl
  | ok scan =>
    dsimp only [Except.mapError, ListenScan.run]
    cases scan.settle <;> rfl

/-! ## Hosts and ports -/

/-- Every text is taken for a host. -/
theorem parse_host (value : String) :
    parse ["listen", Opt.host.attached value] = .ok (some ⟨some value, none⟩) :=
  parse_attached .host value

/-- A text is taken for a port exactly if it reads as one. -/
theorem parse_port (value : String) :
    parse ["listen", Opt.port.attached value] =
      match readPort value with
      | .error fault => .error (.usage (.invalidPort value fault))
      | .ok port => .ok (some ⟨none, some port⟩) := by
  have hstore : ListenScan.start.store .port value =
      match readPort value with
      | .error fault => .error (.invalidPort value fault)
      | .ok port => .ok ⟨⟨none, some port⟩, .none, [.port]⟩ := rfl
  rw [parse_attached, hstore]
  cases readPort value <;> rfl

end SignalStub.CommandLine
