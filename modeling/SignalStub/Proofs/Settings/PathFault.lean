import SignalStub.Proofs.Settings.PathLanguage
import SignalStub.Proofs.Text.Quoted

/-! # Why a write path is refused

    The check looks for three faults, one after the other, so a refused path has exactly one reason:
    the first that applies. A path that begins at the root is not refused for that, and a path of
    literal characters is a probe's.

    The message of a fault begins with the words of its kind, and no other message begins so. The
    path and the character that it names are quoted, so the message stays on one line, and `ofMessage?`
    reads the fault back: the message determines the path.
-/

namespace SignalStub.WritePath

open Text

/-! ## Reasons -/

/-- A path begins with a slash. -/
def BeginsAtRoot (path : String) : Prop := ∃ cs, path.toList = '/' :: cs

theorem isAbsolute_iff (path : String) : isAbsolute path = true ↔ BeginsAtRoot path := by
  constructor
  · exact toList_of_isAbsolute
  · rintro ⟨cs, hcs⟩
    simp [isAbsolute, hcs]

/-- A character is the first of a path that is not literal. -/
def IsFirstForeign (path : String) (c : Char) : Prop :=
  ∃ before after, path.toList = before ++ c :: after ∧ (∀ d ∈ before, IsPathChar d) ∧ ¬ IsPathChar c

theorem find?_eq_some_iff_isFirstForeign (path : String) (c : Char) :
    (path.toList.find? fun c => !isLiteral c) = some c ↔ IsFirstForeign path c := by
  have hforeign : ∀ d, (!isLiteral d) = true ↔ ¬ IsPathChar d := by
    intro d
    rw [← isLiteral_iff]
    simp
  rw [List.find?_eq_some_iff_append]
  unfold IsFirstForeign
  simp only [hforeign, Bool.not_not, isLiteral_iff]
  constructor
  · rintro ⟨hc, before, after, hpath, hbefore⟩
    exact ⟨before, after, hpath, hbefore, hc⟩
  · rintro ⟨before, after, hpath, hbefore, hc⟩
    exact ⟨hc, before, after, hpath, hbefore⟩

theorem IsFirstForeign.mem {path : String} {c : Char} (h : IsFirstForeign path c) :
    c ∈ path.toList := by
  obtain ⟨before, after, hpath, -, -⟩ := h
  rw [hpath]
  exact List.mem_append_right _ List.mem_cons_self

theorem IsFirstForeign.not_isPathChar {path : String} {c : Char} (h : IsFirstForeign path c) :
    ¬ IsPathChar c := by
  obtain ⟨before, after, -, -, hc⟩ := h
  exact hc

/-- The path that a fault is about. -/
def Fault.path : Fault → String
  | .relative path => path
  | .notLiteral _ path => path
  | .reserved path => path

/-- The fault that a path has before any other. -/
inductive FirstFault (path : String) : Fault → Prop
  /-- The path does not begin at the root. -/
  | relative : ¬ BeginsAtRoot path → FirstFault path (.relative path)
  /-- It does, but not all of its characters are literal. -/
  | notLiteral {c : Char} : BeginsAtRoot path → IsFirstForeign path c →
      FirstFault path (.notLiteral c path)
  /-- It does and they are, but it is a probe's path. -/
  | reserved : BeginsAtRoot path → (∀ c ∈ path.toList, IsPathChar c) →
      path = "/livez/" ∨ path = "/healthz/" → FirstFault path (.reserved path)

/-- A path is refused for the first fault that it has. -/
theorem firstFault_of_check {path : String} {fault : Fault} (h : check path = .error fault) :
    FirstFault path fault := by
  unfold check at h
  split at h
  next hrelative =>
    obtain rfl := Except.error.inj h
    refine .relative fun hroot => ?_
    rw [(isAbsolute_iff path).mpr hroot] at hrelative
    cases hrelative
  next habsolute =>
    have hroot : BeginsAtRoot path := by
      rw [← isAbsolute_iff]
      simpa using habsolute
    split at h
    next c hfind =>
      obtain rfl := Except.error.inj h
      exact .notLiteral hroot ((find?_eq_some_iff_isFirstForeign path c).mp hfind)
    next hnone =>
      have hliteral : ∀ c ∈ path.toList, IsPathChar c := by
        intro c hc
        rw [← isLiteral_iff]
        simpa using List.find?_eq_none.mp hnone c hc
      split at h
      next hprobe =>
        obtain rfl := Except.error.inj h
        rw [Bool.or_eq_true, decide_eq_true_iff, decide_eq_true_iff] at hprobe
        exact .reserved hroot hliteral hprobe
      next => cases h

theorem FirstFault.path_eq {path : String} {fault : Fault} (h : FirstFault path fault) :
    fault.path = path := by
  cases h <;> rfl

/-! ## Messages -/

/-- The words that a message begins with. -/
def Says (message words : String) : Prop := words.toList <+: message.toList

namespace Fault

/-- The words that the message of a relative path begins with. -/
def relativeWords : String := "WRITE_SIGNAL_PATH must start with '/', got "

/-- The words that the message of a character that is not literal begins with. -/
def notLiteralWords : String := "WRITE_SIGNAL_PATH may only contain literal segments, found "

/-- The words that the message of a probe's path begins with, up to the quoted path. -/
def reservedWords : String := "WRITE_SIGNAL_PATH \""

/-- The words that the message of a fault begins with. -/
def words : Fault → String
  | .relative _ => relativeWords
  | .notLiteral _ _ => notLiteralWords
  | .reserved _ => reservedWords

theorem message_relative (path : String) :
    (relative path).message.toList = relativeWords.toList ++ (Quoted.text path).toList :=
  String.toList_append

theorem message_notLiteral (c : Char) (path : String) :
    (notLiteral c path).message.toList =
      notLiteralWords.toList ++
        ((Quoted.char c).toList ++ (" in ".toList ++ (Quoted.text path).toList)) := by
  have hmessage : (notLiteral c path).message =
      notLiteralWords ++ Quoted.char c ++ " in " ++ Quoted.text path := rfl
  rw [hmessage, String.toList_append, String.toList_append, String.toList_append,
    List.append_assoc, List.append_assoc]

theorem message_reserved (path : String) :
    (reserved path).message.toList =
      "WRITE_SIGNAL_PATH ".toList ++
        ((Quoted.text path).toList ++ " collides with a probe route".toList) := by
  have hmessage : (reserved path).message =
      "WRITE_SIGNAL_PATH " ++ Quoted.text path ++ " collides with a probe route" := rfl
  rw [hmessage, String.toList_append, String.toList_append, List.append_assoc]

theorem says_words (fault : Fault) : Says fault.message fault.words := by
  unfold Says
  cases fault with
  | relative path =>
    rw [message_relative]
    exact List.prefix_append _ _
  | notLiteral c path =>
    rw [message_notLiteral]
    exact List.prefix_append _ _
  | reserved path =>
    -- the opening quote is the first character of the quoted path
    have hquote : (Quoted.text path).toList =
        '"' :: (path.toList.flatMap (Quoted.escape '"') ++ ['"']) := String.toList_ofList
    have hwords : reservedWords.toList = "WRITE_SIGNAL_PATH ".toList ++ ['"'] := by decide
    show reservedWords.toList <+: _
    rw [message_reserved, hquote, hwords, List.cons_append, List.append_cons]
    exact List.prefix_append _ _

theorem words_mem (fault : Fault) :
    fault.words ∈ [relativeWords, notLiteralWords, reservedWords] := by
  cases fault <;> simp [words]

/-- A message begins with the words of its own kind alone. -/
theorem says_iff (fault other : Fault) :
    Says fault.message other.words ↔ fault.words = other.words := by
  have hapart : ∀ first ∈ [relativeWords, notLiteralWords, reservedWords],
      ∀ second ∈ [relativeWords, notLiteralWords, reservedWords],
        first.toList <+: second.toList → first = second := by decide
  constructor
  · intro hsays
    rcases List.prefix_or_prefix_of_prefix (says_words fault) hsays with hfirst | hsecond
    · exact hapart _ (words_mem fault) _ (words_mem other) hfirst
    · exact (hapart _ (words_mem other) _ (words_mem fault) hsecond).symm
  · intro hsame
    rw [← hsame]
    exact says_words fault

/-- A message consists of characters that are shown, whatever is quoted in it. -/
theorem isShown_message (fault : Fault) : ∀ c ∈ fault.message.toList, Quoted.IsShown c := by
  have hwords : ∀ words : String,
      words.toList.all (fun c => decide (32 ≤ c.toNat) && decide (c.toNat < 127)) = true →
        ∀ c ∈ words.toList, Quoted.IsShown c := by
    intro words hall c hc
    obtain ⟨hlow, hhigh⟩ : 32 ≤ c.toNat ∧ c.toNat < 127 := by
      simpa using List.all_eq_true.mp hall c hc
    exact Quoted.isShown_of_plain hlow hhigh
  have htext : ∀ path, ∀ c ∈ (Quoted.text path).toList, Quoted.IsShown c := by
    intro path
    rw [Quoted.text, String.toList_ofList]
    exact Quoted.isShown_encode (.inl rfl) _
  have hchar : ∀ found, ∀ c ∈ (Quoted.char found).toList, Quoted.IsShown c := by
    intro found
    rw [Quoted.char, String.toList_ofList]
    exact Quoted.isShown_encode (.inr rfl) _
  cases fault with
  | relative path =>
    rw [message_relative]
    exact List.forall_mem_append.mpr ⟨hwords _ (by decide), htext path⟩
  | notLiteral found path =>
    rw [message_notLiteral]
    have hpath := List.forall_mem_append.mpr ⟨hwords " in " (by decide), htext path⟩
    exact List.forall_mem_append.mpr
      ⟨hwords _ (by decide), List.forall_mem_append.mpr ⟨hchar found, hpath⟩⟩
  | reserved path =>
    rw [message_reserved]
    have hpath := List.forall_mem_append.mpr
      ⟨htext path, hwords " collides with a probe route" (by decide)⟩
    exact List.forall_mem_append.mpr ⟨hwords _ (by decide), hpath⟩

/-! ## Messages read back -/

/-- Reads a quoted text with nothing but an ending behind it. -/
def readPath? (ending : String) (cs : List Char) : Option String :=
  match Quoted.decode '"' cs with
  | some (path, rest) => if rest = ending.toList then some (String.ofList path) else none
  | none => none

/-- Reads a quoted character. -/
def readFound? (cs : List Char) : Option (Char × List Char) :=
  match Quoted.decode '\'' cs with
  | some ([c], rest) => some (c, rest)
  | _ => none

/-- What stands behind the words that a text begins with. -/
def behind? (words : String) (cs : List Char) : Option (List Char) :=
  if words.toList <+: cs then some (cs.drop words.toList.length) else none

/-- Reads the message of a fault. -/
def ofMessage? (message : String) : Option Fault :=
  match behind? relativeWords message.toList with
  | some cs => (readPath? "" cs).map .relative
  | none =>
    match behind? notLiteralWords message.toList with
    | some cs =>
      match readFound? cs with
      | some (c, rest) => ((behind? " in " rest).bind (readPath? "")).map (.notLiteral c)
      | none => none
    | none =>
      ((behind? "WRITE_SIGNAL_PATH " message.toList).bind
        (readPath? " collides with a probe route")).map .reserved

theorem readPath?_text (path ending : String) :
    readPath? ending ((Quoted.text path).toList ++ ending.toList) = some path := by
  simp [readPath?, Quoted.decode_text]

theorem readPath?_text_alone (path : String) :
    readPath? "" (Quoted.text path).toList = some path := by
  have hread := readPath?_text path ""
  rwa [String.toList_empty, List.append_nil] at hread

theorem readFound?_char (c : Char) (rest : List Char) :
    readFound? ((Quoted.char c).toList ++ rest) = some (c, rest) := by
  simp [readFound?, Quoted.decode_char]

theorem behind?_append (words : String) (cs : List Char) :
    behind? words (words.toList ++ cs) = some cs := by
  simp [behind?]

/-- A message does not begin with the words of another kind. -/
theorem behind?_of_ne {fault : Fault} (other : Fault) (hne : fault.words ≠ other.words) :
    behind? other.words fault.message.toList = none :=
  if_neg fun hother => hne ((says_iff fault other).mp hother)

/-- The message of a fault is read back as the fault. -/
theorem ofMessage?_message (fault : Fault) : ofMessage? fault.message = some fault := by
  unfold ofMessage?
  cases fault with
  | relative path =>
    simp only [message_relative, behind?_append, readPath?_text_alone, Option.map_some]
  | notLiteral c path =>
    have hdiffer : notLiteralWords ≠ relativeWords := by decide
    have hother : behind? relativeWords (notLiteral c path).message.toList = none :=
      behind?_of_ne (relative path) hdiffer
    rw [hother, message_notLiteral]
    simp only [behind?_append, readFound?_char, Option.bind_some, readPath?_text_alone,
      Option.map_some]
  | reserved path =>
    have hdiffer : reservedWords ≠ relativeWords ∧ reservedWords ≠ notLiteralWords := by decide
    have hfirst : behind? relativeWords (reserved path).message.toList = none :=
      behind?_of_ne (relative path) hdiffer.1
    have hsecond : behind? notLiteralWords (reserved path).message.toList = none :=
      behind?_of_ne (notLiteral '/' path) hdiffer.2
    rw [hfirst, hsecond, message_reserved]
    simp only [behind?_append, Option.bind_some, readPath?_text, Option.map_some]

/-- The message determines the fault. -/
theorem message_injective {fault other : Fault} (h : fault.message = other.message) :
    fault = other := by
  have hread := ofMessage?_message fault
  rw [h, ofMessage?_message] at hread
  exact (Option.some.inj hread).symm

end Fault

/-! ## Refused paths -/

/-- What the message about a refused path tells. -/
structure TellsFirstFault (path : String) (fault : Fault) : Prop where
  /-- It says that the path has to begin at the root exactly if the path does not. -/
  root : Says fault.message Fault.relativeWords ↔ ¬ BeginsAtRoot path
  /-- Otherwise it says that the path has to be literal exactly if one of its characters is not. -/
  literal : Says fault.message Fault.notLiteralWords ↔
    BeginsAtRoot path ∧ ∃ c ∈ path.toList, ¬ IsPathChar c
  /-- The character that it quotes is then the first such one. -/
  found : Says fault.message Fault.notLiteralWords → ∃ before c after,
    path.toList = before ++ c :: after ∧ (∀ d ∈ before, IsPathChar d) ∧ ¬ IsPathChar c ∧
      fault.message = Fault.notLiteralWords ++ Quoted.char c ++ " in " ++ Quoted.text path
  /-- Otherwise it says that the path is a probe's, and the path is one. -/
  probe : BeginsAtRoot path → (∀ c ∈ path.toList, IsPathChar c) →
    (path = "/livez/" ∨ path = "/healthz/") ∧
      fault.message = "WRITE_SIGNAL_PATH " ++ Quoted.text path ++ " collides with a probe route"
  /-- It holds no control and no line break, whatever the path holds. -/
  oneLine : ∀ c ∈ fault.message.toList, ¬ Quoted.IsControl c ∧ c ∉ Quoted.lineBreaks
  /-- The fault, and with it the path, can be read off it. -/
  recovered : Fault.ofMessage? fault.message = some fault ∧ fault.path = path
  /-- Another refused path has another message. -/
  apart : ∀ {other : String} {fault' : Fault}, check other = .error fault' → other ≠ path →
    fault'.message ≠ fault.message

/-- A path is refused for its first fault, and the message tells the fault and the path. -/
theorem refused_path_tells_first_fault {path : String} {fault : Fault}
    (h : check path = .error fault) : TellsFirstFault path fault := by
  have hfirst := firstFault_of_check h
  have hrelative := Fault.says_iff fault (.relative path)
  have hnotLiteral := Fault.says_iff fault (.notLiteral '/' path)
  have hkinds : Fault.notLiteralWords ≠ Fault.relativeWords ∧
      Fault.reservedWords ≠ Fault.relativeWords ∧ Fault.reservedWords ≠ Fault.notLiteralWords := by
    decide
  constructor
  case root =>
    refine hrelative.trans ?_
    cases hfirst with
    | relative hroot => exact iff_of_true rfl hroot
    | notLiteral hroot _ => exact iff_of_false hkinds.1 (not_not_intro hroot)
    | reserved hroot _ _ => exact iff_of_false hkinds.2.1 (not_not_intro hroot)
  case literal =>
    refine hnotLiteral.trans ?_
    cases hfirst with
    | relative hroot => exact iff_of_false hkinds.1.symm fun hliteral => hroot hliteral.1
    | @notLiteral c hroot hforeign =>
      exact iff_of_true rfl ⟨hroot, c, hforeign.mem, hforeign.not_isPathChar⟩
    | reserved _ hliteral _ =>
      refine iff_of_false hkinds.2.2 ?_
      rintro ⟨-, c, hc, hforeign⟩
      exact hforeign (hliteral c hc)
  case found =>
    intro hsays
    have hwords := hnotLiteral.mp hsays
    cases hfirst with
    | relative _ => exact absurd hwords hkinds.1.symm
    | @notLiteral c _ hforeign =>
      obtain ⟨before, after, hpath, hbefore, hc⟩ := hforeign
      exact ⟨before, c, after, hpath, hbefore, hc, rfl⟩
    | reserved _ _ _ => exact absurd hwords hkinds.2.2
  case probe =>
    intro hroot hliteral
    cases hfirst with
    | relative hnone => exact absurd hroot hnone
    | @notLiteral c _ hforeign =>
      exact absurd (hliteral c hforeign.mem) hforeign.not_isPathChar
    | reserved _ _ hprobe => exact ⟨hprobe, rfl⟩
  case oneLine =>
    intro c hc
    have hshown := fault.isShown_message c hc
    exact ⟨hshown.not_isControl, hshown.not_mem_lineBreaks⟩
  case recovered => exact ⟨Fault.ofMessage?_message fault, hfirst.path_eq⟩
  case apart =>
    intro other fault' hother hne hsame
    have hpath := (firstFault_of_check hother).path_eq
    rw [Fault.message_injective hsame, hfirst.path_eq] at hpath
    exact hne hpath.symm

/-- A path with a line break, a quote and a mark that turns the direction of writing. -/
theorem broken_path_tells_first_fault :
    check "/a\nb\"\u202e" = .error (.notLiteral '\n' "/a\nb\"\u202e") ∧
      TellsFirstFault "/a\nb\"\u202e" (.notLiteral '\n' "/a\nb\"\u202e") := by
  have h : check "/a\nb\"\u202e" = .error (.notLiteral '\n' "/a\nb\"\u202e") := by decide
  exact ⟨h, refused_path_tells_first_fault h⟩

end SignalStub.WritePath
