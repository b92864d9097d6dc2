import Mathlib.Tactic.SplitIfs
import SignalStub.Text.Document

/-! # Documents read back

    A document is determined by its text: whatever `render` writes, `read?` reads back, and nothing
    is left over.

    Each reader answers the rest of its input, so the law of a reader is about a written piece with
    something behind it. A text ends at its closing quote and may be followed by anything. A number
    has no end of its own: it may only be followed by a character that is no digit, which a comma
    and both closing brackets are.

    Beside what it was made of, a document holds a few marks only. So a character that is no mark
    and in no text of a document is not in what is written.
-/

namespace SignalStub.Document

/-! ## Texts -/

theorem hexDigit?_digitChar : ∀ d : Nat, d < 16 → hexDigit? (Nat.digitChar d) = some d := by
  decide

/-- A control is written by two digits, which give it back. -/
theorem readTextFrom_code {c : Char} (hc : c.toNat < 32) (rest : List Char) :
    readTextFrom (.code 1 0) (hexPair c.toNat ++ rest) =
      (readTextFrom .plain rest).map fun (cs, rest) => (c :: cs, rest) := by
  have hhigh := hexDigit?_digitChar (c.toNat / 16) (by omega)
  have hlow := hexDigit?_digitChar (c.toNat % 16) (by omega)
  have hsum : 16 * (16 * 0 + c.toNat / 16) + c.toNat % 16 = c.toNat := by omega
  have hvalid : c.toNat.isValidChar := c.valid
  simp only [hexPair, List.cons_append, List.nil_append, readTextFrom, hhigh, hlow, hsum, hvalid,
    if_true, Char.ofNat_toNat]

/-- The reader takes one written character and goes on behind it. -/
theorem readTextFrom_escape (c : Char) (rest : List Char) :
    readTextFrom .plain (escape c ++ rest) =
      (readTextFrom .plain rest).map fun (cs, rest) => (c :: cs, rest) := by
  unfold escape
  -- one case for each way to write a character, in the order in which they are tried
  split_ifs with hquote hbackslash hback hform hnewline hreturn htab hcontrol
  · subst hquote; simp [readTextFrom, escaped?]
  · subst hbackslash; simp [readTextFrom, escaped?]
  · subst hback; simp [readTextFrom, escaped?]
  · subst hform; simp [readTextFrom, escaped?]
  · subst hnewline; simp [readTextFrom, escaped?]
  · subst hreturn; simp [readTextFrom, escaped?]
  · subst htab; simp [readTextFrom, escaped?]
  -- the two leading zeros of a control change nothing about its code
  · have hzero : hexDigit? '0' = some 0 := by decide
    have hcode := readTextFrom_code hcontrol rest
    simp [readTextFrom, hzero, hcode]
  · simp [readTextFrom, hquote, hbackslash, hcontrol]

theorem readTextFrom_written (cs rest : List Char) :
    readTextFrom .plain (cs.flatMap escape ++ '"' :: rest) = some (cs, rest) := by
  induction cs with
  | nil => simp [readTextFrom]
  | cons c cs ih =>
    rw [List.flatMap_cons, List.append_assoc, readTextFrom_escape, ih]
    rfl

theorem readText_writeText (s : String) (rest : List Char) :
    readText (writeText s ++ rest) = some (s, rest) := by
  have h := readTextFrom_written s.toList rest
  simp [writeText, readText, h]

/-! ## Numbers -/

theorem readNumber_writeNumber (n : Nat) {c : Char} (hc : c.isDigit = false) (rest : List Char) :
    readNumber (writeNumber n ++ c :: rest) = some (n, c :: rest) := by
  have hdigits : ∀ d ∈ Nat.toDigits 10 n, d.isDigit = true := fun d hd =>
    Nat.isDigit_of_mem_toDigits (by omega) (by omega) hd
  have htake : (Nat.toDigits 10 n ++ c :: rest).takeWhile Char.isDigit = Nat.toDigits 10 n := by
    rw [List.takeWhile_append_of_pos hdigits]
    simp [hc]
  have hdrop : (Nat.toDigits 10 n ++ c :: rest).dropWhile Char.isDigit = c :: rest := by
    rw [List.dropWhile_append_of_pos hdigits]
    simp [hc]
  have hvalue : (Nat.toDigits 10 n).foldl (fun n c => 10 * n + (c.toNat - 48)) 0 = n :=
    Nat.ofDigitChars_ten_toDigits
  unfold readNumber writeNumber
  simp only [htake, hdrop, hvalue, if_true]

theorem writeNumber_head (n : Nat) : ∃ d ds, writeNumber n = d :: ds ∧ d.isDigit = true := by
  cases h : writeNumber n with
  | nil => exact absurd h Nat.toDigits_ne_nil
  | cons d ds =>
    have hd : d ∈ Nat.toDigits 10 n := by
      have : d ∈ writeNumber n := by simp [h]
      exact this
    exact ⟨d, ds, rfl, Nat.isDigit_of_mem_toDigits (by omega) (by omega) hd⟩

/-! ## Pieces with commas between them -/

section Separated
variable {α : Type} {close : Char} {read : List Char → Option (α × List Char)}
  {write : α → List Char}

/-- Pieces that a comma or the closing character ends are read back one by one. -/
theorem readSeparated_commaSeparated (hcomma : ',' ≠ close)
    (hread : ∀ x c rest, c = ',' ∨ c = close → read (write x ++ c :: rest) = some (x, c :: rest))
    (x : α) (xs : List α) (steps : Nat) (hsteps : xs.length < steps) (rest : List Char) :
    readSeparated close read steps (commaSeparated ((x :: xs).map write) ++ close :: rest) =
      some (x :: xs, rest) := by
  -- every piece takes one step, and there are more steps than pieces behind the first
  induction xs generalizing x steps with
  | nil =>
    obtain ⟨steps, rfl⟩ : ∃ k, steps = k + 1 := ⟨steps - 1, by simp at hsteps; omega⟩
    simp [commaSeparated, readSeparated, hread x close rest (.inr rfl)]
  | cons y ys ih =>
    obtain ⟨steps, rfl⟩ : ∃ k, steps = k + 1 := ⟨steps - 1, by simp at hsteps; omega⟩
    have hothers := ih y steps (by simpa using hsteps)
    have hfirst := hread x ',' (commaSeparated ((y :: ys).map write) ++ close :: rest) (.inl rfl)
    simp only [List.map_cons] at hothers hfirst
    simp [commaSeparated, readSeparated, hfirst, hcomma, hothers]

theorem length_le_commaSeparated (hne : ∀ x, write x ≠ []) (xs : List α) :
    xs.length ≤ (commaSeparated (xs.map write)).length := by
  induction xs with
  | nil => simp
  | cons x xs ih =>
    have hx : 0 < (write x).length := List.length_pos_iff.mpr (hne x)
    cases xs with
    | nil =>
      simp only [List.map_cons, List.map_nil, List.length_cons, List.length_nil, commaSeparated]
      omega
    | cons y ys =>
      simp only [List.map_cons, List.length_cons, commaSeparated, List.length_append] at ih ⊢
      omega

/-- A list of pieces is read back, also when it is empty. -/
theorem readList_commaSeparated (hcomma : ',' ≠ close)
    (hread : ∀ x c rest, c = ',' ∨ c = close → read (write x ++ c :: rest) = some (x, c :: rest))
    (hhead : ∀ x, ∃ c cs, write x = c :: cs ∧ c ≠ close) (xs : List α) (rest : List Char) :
    readList close read (commaSeparated (xs.map write) ++ close :: rest) = some (xs, rest) := by
  cases xs with
  | nil => simp [commaSeparated, readList]
  | cons x xs =>
    -- the reader may take as many steps as there are characters, and no piece is empty
    have hlength : (x :: xs).length ≤ (commaSeparated ((x :: xs).map write)).length :=
      length_le_commaSeparated (fun y h => by
        obtain ⟨c, cs, hy, -⟩ := hhead y
        simp [hy] at h) (x :: xs)
    have hseparated := readSeparated_commaSeparated hcomma hread x xs
      (commaSeparated ((x :: xs).map write) ++ close :: rest).length
      (by simp only [List.length_append, List.length_cons] at hlength ⊢; omega) rest
    obtain ⟨c, cs, hx, hc⟩ := hhead x
    obtain ⟨tail, htail⟩ : ∃ tail, commaSeparated ((x :: xs).map write) = c :: tail := by
      cases xs <;> simp [commaSeparated, hx]
    rw [htail, List.cons_append] at hseparated ⊢
    simpa [readList, hc] using hseparated

end Separated

/-! ## Values, members and documents -/

/-- A value is read back where a character follows that ends a number. -/
theorem readValue_writeValue (value : Value) {c : Char} (hc : c.isDigit = false)
    (rest : List Char) :
    readValue (writeValue value ++ c :: rest) = some (value, c :: rest) := by
  cases value with
  | number n =>
    have hread := readNumber_writeNumber n hc rest
    obtain ⟨d, ds, hn, hd⟩ := writeNumber_head n
    simp only [writeValue]
    rw [hn, List.cons_append] at hread ⊢
    -- a digit opens neither a list nor a text
    have hbracket : d ≠ '[' := by rintro rfl; simp at hd
    have hquote : d ≠ '"' := by rintro rfl; simp at hd
    rw [readValue]
    · simp [hread]
    · simpa using hbracket
    · simpa using hquote
  | text s =>
    have hread := readText_writeText s (c :: rest)
    simp only [writeValue, writeText, List.cons_append] at hread ⊢
    rw [readValue, hread]
    rfl
  | numbers ns =>
    have hread : readList ']' readNumber (commaSeparated (ns.map writeNumber) ++ ']' :: c :: rest) =
        some (ns, c :: rest) := by
      apply readList_commaSeparated (by decide)
      · rintro n d rest (rfl | rfl)
        · exact readNumber_writeNumber n (by decide) rest
        · exact readNumber_writeNumber n (by decide) rest
      · intro n
        obtain ⟨d, ds, hn, hd⟩ := writeNumber_head n
        exact ⟨d, ds, hn, by rintro rfl; simp at hd⟩
    simp [writeValue, readValue, hread]

theorem readMember_writeMember (member : String × Value) {c : Char} (hc : c.isDigit = false)
    (rest : List Char) :
    readMember (writeMember member ++ c :: rest) = some (member, c :: rest) := by
  have hname := readText_writeText member.1 (':' :: (writeValue member.2 ++ c :: rest))
  have hvalue := readValue_writeValue member.2 hc rest
  simp only [writeMember, List.append_assoc, List.cons_append, readMember, hname, hvalue]
  rfl

/-- The text of a document determines it. -/
theorem read?_render (document : Document) : read? document.render = some document := by
  have hmembers : readList '\x7d' readMember
      (commaSeparated (document.members.map writeMember) ++ ['\x7d']) =
        some (document.members, []) := by
    apply readList_commaSeparated (by decide)
    · rintro member d rest (rfl | rfl)
      · exact readMember_writeMember member (by decide) rest
      · exact readMember_writeMember member (by decide) rest
    · intro member
      exact ⟨'"', _, rfl, by decide⟩
  simp [read?, render, hmembers]

/-! ## Characters -/

/-- The characters that documents are written with: digits, the marks of lists and of texts, and the
    letters behind a backslash. -/
def IsMark (c : Char) : Prop :=
  c.isDigit = true ∨ c ∈ "\x7b\x7d[]:,\"\\abcdefnrtu".toList

instance : DecidablePred IsMark := fun c =>
  inferInstanceAs (Decidable (c.isDigit = true ∨ c ∈ "\x7b\x7d[]:,\"\\abcdefnrtu".toList))

theorem isMark_digitChar : ∀ d : Nat, d < 16 → IsMark (Nat.digitChar d) := by
  decide

theorem mem_escape (c : Char) : ∀ d ∈ escape c, d = c ∨ IsMark d := by
  have hmarks : ∀ cs : List Char, cs.all (fun d => decide (IsMark d)) = true →
      ∀ d ∈ cs, d = c ∨ IsMark d :=
    fun cs hcs d hd => .inr (of_decide_eq_true (List.all_eq_true.mp hcs d hd))
  unfold escape
  split_ifs with hquote hbackslash hback hform hnewline hreturn htab hcontrol
  · exact hmarks _ (by decide)
  · exact hmarks _ (by decide)
  · exact hmarks _ (by decide)
  · exact hmarks _ (by decide)
  · exact hmarks _ (by decide)
  · exact hmarks _ (by decide)
  · exact hmarks _ (by decide)
  · have hhigh : IsMark (Nat.digitChar (c.toNat / 16)) := isMark_digitChar _ (by omega)
    have hlow : IsMark (Nat.digitChar (c.toNat % 16)) := isMark_digitChar _ (by omega)
    have hlead : IsMark '\\' ∧ IsMark 'u' ∧ IsMark '0' := by decide
    apply hmarks
    simp [hexPair, hhigh, hlow, hlead]
  · intro d hd
    exact .inl (List.mem_singleton.mp hd)

theorem mem_writeText (s : String) : ∀ c ∈ writeText s, c ∈ s.toList ∨ IsMark c := by
  have hquote : IsMark '"' := by decide
  intro c hc
  simp only [writeText, List.mem_cons, List.mem_append, List.mem_flatMap, List.not_mem_nil,
    or_false] at hc
  rcases hc with rfl | ⟨d, hd, hwritten⟩ | rfl
  · exact .inr hquote
  · rcases mem_escape d c hwritten with rfl | hmark
    · exact .inl hd
    · exact .inr hmark
  · exact .inr hquote

theorem mem_writeNumber (n : Nat) : ∀ c ∈ writeNumber n, IsMark c :=
  fun _ hc => .inl (Nat.isDigit_of_mem_toDigits (by omega) (by omega) hc)

theorem mem_commaSeparated (pieces : List (List Char)) :
    ∀ c ∈ commaSeparated pieces, c = ',' ∨ ∃ piece ∈ pieces, c ∈ piece := by
  induction pieces with
  | nil => simp [commaSeparated]
  | cons piece pieces ih =>
    intro c hc
    cases pieces with
    | nil => exact .inr ⟨piece, List.mem_cons_self, hc⟩
    | cons next pieces =>
      rw [commaSeparated, List.mem_append, List.mem_cons] at hc
      rcases hc with hpiece | rfl | hothers
      · exact .inr ⟨piece, List.mem_cons_self, hpiece⟩
      · exact .inl rfl
      · rcases ih c hothers with hcomma | ⟨other, hmem, hc⟩
        · exact .inl hcomma
        · exact .inr ⟨other, List.mem_cons_of_mem _ hmem, hc⟩
      · simp

/-- The characters of a text that is a value. -/
def Value.chars : Value → List Char
  | .text s => s.toList
  | .number _ => []
  | .numbers _ => []

theorem mem_writeValue (value : Value) : ∀ c ∈ writeValue value, c ∈ value.chars ∨ IsMark c := by
  intro c hc
  cases value with
  | number n => exact .inr (mem_writeNumber n c hc)
  | text s => exact mem_writeText s c hc
  | numbers ns =>
    have hmarks : IsMark '[' ∧ IsMark ',' ∧ IsMark ']' := by decide
    rw [writeValue, List.mem_cons, List.mem_append, List.mem_singleton] at hc
    rcases hc with rfl | hpieces | rfl
    · exact .inr hmarks.1
    · rcases mem_commaSeparated _ c hpieces with rfl | ⟨piece, hpiece, hc⟩
      · exact .inr hmarks.2.1
      · obtain ⟨n, -, rfl⟩ := List.mem_map.mp hpiece
        exact .inr (mem_writeNumber n c hc)
    · exact .inr hmarks.2.2

/-- A document holds the characters of its names and its texts, and marks. -/
theorem mem_render (document : Document) : ∀ c ∈ document.render.toList,
    (∃ member ∈ document.members, c ∈ member.1.toList ∨ c ∈ member.2.chars) ∨ IsMark c := by
  have hmarks : IsMark '\x7b' ∧ IsMark ',' ∧ IsMark ':' ∧ IsMark '\x7d' := by decide
  intro c hc
  rw [render, String.toList_ofList, List.mem_cons, List.mem_append, List.mem_singleton] at hc
  rcases hc with rfl | hpieces | rfl
  · exact .inr hmarks.1
  · rcases mem_commaSeparated _ c hpieces with rfl | ⟨piece, hpiece, hc⟩
    · exact .inr hmarks.2.1
    · obtain ⟨member, hmember, rfl⟩ := List.mem_map.mp hpiece
      rw [writeMember, List.mem_append, List.mem_cons] at hc
      rcases hc with hname | rfl | hvalue
      · exact (mem_writeText _ c hname).imp_left fun hc => ⟨member, hmember, .inl hc⟩
      · exact .inr hmarks.2.2.1
      · exact (mem_writeValue _ c hvalue).imp_left fun hc => ⟨member, hmember, .inr hc⟩
  · exact .inr hmarks.2.2.2

end SignalStub.Document
