import SignalStub.CommandLine.Basic
import SignalStub.Proofs.Number.Integer

/-! # Addresses taken apart

    An address is a host, a colon and a port, and nothing marks a colon that belongs to the host. A
    host may hold colons, end in one, or look like an address itself. The decimal text of a port
    holds none, so the last colon of an address is always the one between the two.

    Splitting there gives back both, and no two pairs of a host and a port have the same address.
-/

namespace SignalStub.Settings

open Number Binary64

/-! ## The last colon -/

/-- Takes a text apart at its last colon. -/
def splitLastColon? : List Char → Option (List Char × List Char)
  | [] => none
  | c :: cs =>
    match splitLastColon? cs with
    | some (before, behind) => some (c :: before, behind)
    | none => if c = ':' then some ([], cs) else none

theorem splitLastColon?_eq_none_iff (cs : List Char) :
    splitLastColon? cs = none ↔ ':' ∉ cs := by
  induction cs with
  | nil => simp [splitLastColon?]
  | cons c cs ih =>
    unfold splitLastColon?
    cases hsplit : splitLastColon? cs with
    | some parts =>
      have hcolon : ':' ∈ cs := by
        rw [hsplit] at ih
        simpa using ih
      simp [hcolon]
    | none =>
      have hcolon : ':' ∉ cs := ih.mp hsplit
      simp [hcolon, eq_comm]

/-- The colon with none behind it is the last. -/
theorem splitLastColon?_append (before : List Char) {behind : List Char} (h : ':' ∉ behind) :
    splitLastColon? (before ++ ':' :: behind) = some (before, behind) := by
  induction before with
  | nil =>
    have hnone := (splitLastColon?_eq_none_iff behind).mpr h
    rw [List.nil_append, splitLastColon?, hnone]
    exact if_pos rfl
  | cons c before ih => rw [List.cons_append, splitLastColon?, ih]

theorem eq_of_splitLastColon? {cs before behind : List Char}
    (h : splitLastColon? cs = some (before, behind)) :
    cs = before ++ ':' :: behind ∧ ':' ∉ behind := by
  induction cs generalizing before with
  | nil => cases h
  | cons c cs ih =>
    unfold splitLastColon? at h
    cases hsplit : splitLastColon? cs with
    | some parts =>
      obtain ⟨found, rest⟩ := parts
      rw [hsplit] at h
      obtain ⟨rfl, rfl⟩ := Prod.mk.inj (Option.some.inj h)
      obtain ⟨rfl, hbehind⟩ := ih hsplit
      exact ⟨rfl, hbehind⟩
    | none =>
      rw [hsplit] at h
      obtain ⟨rfl, hparts⟩ := Option.ite_none_right_eq_some.mp h
      obtain ⟨rfl, rfl⟩ := Prod.mk.inj (Option.some.inj hparts)
      exact ⟨rfl, (splitLastColon?_eq_none_iff cs).mp hsplit⟩

/-- A text is taken apart at the one colon that has none behind it. -/
theorem splitLastColon?_eq_some_iff {cs before behind : List Char} :
    splitLastColon? cs = some (before, behind) ↔ cs = before ++ ':' :: behind ∧ ':' ∉ behind := by
  constructor
  · exact eq_of_splitLastColon?
  · rintro ⟨rfl, hbehind⟩
    exact splitLastColon?_append before hbehind

theorem colon_notMem_of_isDigits {cs : List Char} (h : IsDigits cs) : ':' ∉ cs := by
  intro hcolon
  exact absurd (h.2 ':' hcolon) (by decide)

/-! ## Hosts and ports -/

/-- Reads an address: the host before its last colon, and the decimal number behind it. -/
def readAddress? (text : String) : Option (String × Nat) :=
  match splitLastColon? text.toList with
  | some (host, port) =>
    if IsDigits port then some (String.ofList host, digitsValue port) else none
  | none => none

theorem splitLastColon?_address (host : String) (port : UInt16) :
    splitLastColon? (address host port).toList = some (host.toList, Nat.toDigits 10 port.toNat) := by
  rw [splitLastColon?_eq_some_iff]
  constructor
  · unfold address
    rw [String.toList_append, String.toList_append, Nat.toList_repr, List.append_assoc]
    rfl
  · exact colon_notMem_of_isDigits (isDigits_toDigits _)

/-- An address is read back, whatever its host is. -/
theorem readAddress?_address (host : String) (port : UInt16) :
    readAddress? (address host port) = some (host, port.toNat) := by
  unfold readAddress?
  rw [splitLastColon?_address]
  simp [isDigits_toDigits, digitsValue_toDigits]

theorem address_inj {host other : String} {port otherPort : UInt16} :
    address host port = address other otherPort ↔ host = other ∧ port = otherPort := by
  constructor
  · intro h
    have hread := readAddress?_address host port
    rw [h, readAddress?_address] at hread
    obtain ⟨hhost, hport⟩ := Prod.mk.inj (Option.some.inj hread)
    exact ⟨hhost.symm, (UInt16.toNat_inj.mp hport).symm⟩
  · rintro ⟨rfl, rfl⟩
    rfl

/-! ## The addresses of settings -/

/-- What stands in front of the address in an endpoint. -/
def endpointScheme : String := "http://"

/-- Reads an endpoint: the scheme, and the address behind it. -/
def readEndpoint? (text : String) : Option (String × Nat) :=
  if endpointScheme.toList <+: text.toList then
    readAddress? (String.ofList (text.toList.drop endpointScheme.toList.length))
  else
    none

theorem otlpEndpoint_eq (s : Settings) :
    s.otlpEndpoint = endpointScheme ++ address s.otlpHost s.otlpPort := rfl

theorem readEndpoint?_otlpEndpoint (s : Settings) :
    readEndpoint? s.otlpEndpoint = some (s.otlpHost, s.otlpPort.toNat) := by
  unfold readEndpoint?
  rw [otlpEndpoint_eq, String.toList_append, if_pos (List.prefix_append _ _), List.drop_left,
    String.ofList_toList, readAddress?_address]

/-- The addresses of settings tell the hosts and the ports that they were made of. -/
structure AddressesTell (s : Settings) : Prop where
  /-- The address to listen on is read back as the host and the port. -/
  bind : readAddress? s.bindAddress = some (s.httpHost, s.httpPort.toNat)
  /-- It is read back after options too, as the host and the port that they leave. -/
  overridden : ∀ args : CommandLine.ListenArgs, readAddress? (args.apply s).bindAddress =
    some (args.host.getD s.httpHost, (args.port.getD s.httpPort).toNat)
  /-- Only settings with this host and this port have it. -/
  bindApart : ∀ other : Settings, other.bindAddress = s.bindAddress ↔
    other.httpHost = s.httpHost ∧ other.httpPort = s.httpPort
  /-- The endpoint of the traces is read back as their host and their port. -/
  endpoint : readEndpoint? s.otlpEndpoint = some (s.otlpHost, s.otlpPort.toNat)
  /-- Only settings with this host and this port have it. -/
  endpointApart : ∀ other : Settings, other.otlpEndpoint = s.otlpEndpoint ↔
    other.otlpHost = s.otlpHost ∧ other.otlpPort = s.otlpPort

/-- Whatever the hosts are, the addresses of settings can be taken apart. -/
theorem addresses_tell_hosts_and_ports (s : Settings) : AddressesTell s where
  bind := readAddress?_address s.httpHost s.httpPort
  overridden := fun args => readAddress?_address (args.apply s).httpHost (args.apply s).httpPort
  bindApart := fun _ => address_inj
  endpoint := readEndpoint?_otlpEndpoint s
  endpointApart := by
    intro other
    constructor
    · intro h
      have hread := readEndpoint?_otlpEndpoint other
      rw [h, readEndpoint?_otlpEndpoint] at hread
      obtain ⟨hhost, hport⟩ := Prod.mk.inj (Option.some.inj hread)
      exact ⟨hhost.symm, (UInt16.toNat_inj.mp hport).symm⟩
    · rintro ⟨hhost, hport⟩
      rw [otlpEndpoint_eq, otlpEndpoint_eq, hhost, hport]

end SignalStub.Settings
