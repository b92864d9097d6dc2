import Mathlib.Data.FinEnum
import Mathlib.Data.Set.Card
import Mathlib.Order.Interval.Finset.Nat
import SignalStub.Proofs.EventId.Calls

/-! # Uniform draws

    The words that stand for one place of a range are those whose products with the width lie between
    two bounds. The distance of the bounds is the width times a power of two. However the bounds lie,
    as many multiples of the width fit between them as the power says, so every place has the same
    number of accepted words. Together they are at least half of all words, because the power is the
    largest with which the width still fits a word.

    A value is counted for a word if a generator whose next word this is draws the value at once. For
    event ids nothing is left to clamp, since a drawn value lies in its range anyway.
-/

namespace SignalStub

open Randomness

/-! ## Words between two bounds -/

namespace Randomness.DrawRange

/-- The smallest number whose product with the width reaches a bound. -/
def firstFactor (width bound : Nat) : Nat :=
  (bound + (width - 1)) / width

section Factors
variable {width : Nat} (hwidth : 0 < width)
include hwidth

theorem firstFactor_le_iff (bound factor : Nat) :
    firstFactor width bound ≤ factor ↔ bound ≤ factor * width := by
  unfold firstFactor
  rw [Nat.div_le_iff_le_mul_add_pred hwidth, Nat.mul_comm width factor]
  omega

/-- A bound that is a number of widths away is reached by as many factors more. -/
theorem firstFactor_add_mul (bound steps : Nat) :
    firstFactor width (bound + width * steps) = firstFactor width bound + steps := by
  unfold firstFactor
  rw [Nat.add_right_comm, Nat.add_mul_div_left _ _ hwidth]

end Factors

theorem ncard_words_between {low count : Nat} (h : low + count ≤ UInt32.size) :
    {word : UInt32 | low ≤ word.toNat ∧ word.toNat < low + count}.ncard = count := by
  have hinjective : Function.Injective UInt32.toNat := fun a b hab => UInt32.toNat_inj.mp hab
  have himage : UInt32.toNat '' {word | low ≤ word.toNat ∧ word.toNat < low + count} =
      ↑(Finset.Ico low (low + count)) := by
    ext n
    simp only [Set.mem_image, Set.mem_ofPred_eq, Finset.coe_Ico, Set.mem_Ico]
    constructor
    · rintro ⟨word, hbounds, rfl⟩
      exact hbounds
    · rintro ⟨hlow, hhigh⟩
      have hn : (UInt32.ofNat n).toNat = n := UInt32.toNat_ofNat_of_lt' (by omega)
      exact ⟨UInt32.ofNat n, by rw [hn]; exact ⟨hlow, hhigh⟩, hn⟩
  rw [← Set.ncard_image_of_injective _ hinjective, himage, Set.ncard_coe_finset, Nat.card_Ico,
    Nat.add_sub_cancel_left]

/-! ## Words of one place -/

variable {range : DrawRange}

/-- The words that are accepted for the place `k`. -/
def wordsOfPlace (range : DrawRange) (k : Nat) : Set UInt32 :=
  {word | range.Accepts word ∧ range.place word = k}

/-- Rest and quotient of a product, as bounds of the product. -/
theorem rest_and_quotient_iff {product count rest k : Nat} (hrest : rest ≤ count) :
    product % count < rest ∧ product / count = k ↔
      k * count ≤ product ∧ product < k * count + rest := by
  have hsplit := Nat.div_add_mod product count
  constructor
  · rintro ⟨hlt, rfl⟩
    rw [Nat.mul_comm] at hsplit
    omega
  · rintro ⟨hlow, hhigh⟩
    have hquotient : product / count = k := by
      apply Nat.div_eq_of_lt_le hlow
      rw [Nat.succ_mul]
      omega
    rw [hquotient, Nat.mul_comm] at hsplit
    omega

section Counted
variable (hrange : range.lo ≤ range.hi) (hsize : range.size ≠ 0)
include hrange hsize

/-- Every place of a range has the same number of accepted words. -/
theorem ncard_wordsOfPlace {k : Nat} (hk : k < range.width) :
    (range.wordsOfPlace k).ncard = 2 ^ leadingZeros range.size := by
  have hwidth : 0 < range.width := Nat.succ_pos _
  obtain ⟨-, hfits⟩ := shifted_width_bounds hrange hsize
  rw [Nat.shiftLeft_eq] at hfits
  have hbetween : range.wordsOfPlace k =
      {word | firstFactor range.width (k * UInt32.size) ≤ word.toNat ∧
        word.toNat < firstFactor range.width (k * UInt32.size) + 2 ^ leadingZeros range.size} := by
    ext word
    show range.Accepts word ∧ range.place word = k ↔ _
    unfold Accepts place
    rw [Nat.shiftLeft_eq, rest_and_quotient_iff hfits.le, Set.mem_ofPred_eq,
      ← firstFactor_add_mul hwidth, firstFactor_le_iff hwidth, ← Nat.not_le, ← Nat.not_le,
      firstFactor_le_iff hwidth]
  -- the last of these words is a word still, because the place is not beyond the last one
  have hlast : firstFactor range.width (k * UInt32.size) + 2 ^ leadingZeros range.size ≤
      UInt32.size := by
    rw [← firstFactor_add_mul hwidth, firstFactor_le_iff hwidth]
    calc k * UInt32.size + range.width * 2 ^ leadingZeros range.size
        ≤ k * UInt32.size + UInt32.size := Nat.add_le_add_left hfits.le _
      _ = (k + 1) * UInt32.size := (Nat.succ_mul k UInt32.size).symm
      _ ≤ range.width * UInt32.size := Nat.mul_le_mul_right _ hk
      _ = UInt32.size * range.width := Nat.mul_comm _ _
  rw [hbetween, ncard_words_between hlast]

/-- The first places of a range have their words together. -/
theorem ncard_accepted_below {m : Nat} (hm : m ≤ range.width) :
    {word | range.Accepts word ∧ range.place word < m}.ncard =
      m * 2 ^ leadingZeros range.size := by
  -- one place more adds its own words, and no word stands for two places
  induction m with
  | zero => simp
  | succ m ih =>
    have hsplit : {word | range.Accepts word ∧ range.place word < m + 1} =
        {word | range.Accepts word ∧ range.place word < m} ∪ range.wordsOfPlace m := by
      ext word
      simp only [wordsOfPlace, Set.mem_union, Set.mem_ofPred_eq, Nat.lt_succ_iff_lt_or_eq,
        and_or_left]
    have hdisjoint : Disjoint {word | range.Accepts word ∧ range.place word < m}
        (range.wordsOfPlace m) := by
      rw [Set.disjoint_left]
      rintro word ⟨-, hlt⟩ ⟨-, heq⟩
      exact absurd heq (Nat.ne_of_lt hlt)
    rw [hsplit, Set.ncard_union_eq hdisjoint (Set.toFinite _) (Set.toFinite _),
      ih (Nat.le_of_succ_le hm), ncard_wordsOfPlace hrange hsize hm, Nat.succ_mul]

theorem ncard_accepted :
    {word | range.Accepts word}.ncard = range.width * 2 ^ leadingZeros range.size := by
  have hall : {word | range.Accepts word} =
      {word | range.Accepts word ∧ range.place word < range.width} := by
    ext word
    simp [place_lt_width]
  rw [hall, ncard_accepted_below hrange hsize (Nat.le_refl _)]

/-- Every element of a range has the same number of accepted words. -/
theorem ncard_accept? {value : UInt32} (hvalue : range.Contains value) :
    {word | range.accept? word = some value}.ncard = 2 ^ leadingZeros range.size := by
  obtain ⟨hlow, hhigh⟩ := hvalue
  rw [UInt32.le_iff_toNat_le] at hlow hhigh
  have hplace : value.toNat - range.lo.toNat < range.width := by
    unfold width
    omega
  have hwords : {word | range.accept? word = some value} =
      range.wordsOfPlace (value.toNat - range.lo.toNat) := by
    ext word
    rw [Set.mem_ofPred_eq, accept?_eq_some_iff hrange]
    show _ ↔ range.Accepts word ∧ range.place word = value.toNat - range.lo.toNat
    refine and_congr_right' ?_
    omega
  rw [hwords, ncard_wordsOfPlace hrange hsize hplace]

end Counted

end Randomness.DrawRange

/-! ## Words offered to a generator -/

namespace SeededGenerator

/-- The generator with this word in the place of its next one. -/
def offered (generator : SeededGenerator) (word : UInt32) : SeededGenerator :=
  { generator with words := { generator.words with
      word := fun i => if i = generator.words.taken then word else generator.words.word i } }

/-- The generator draws this value and takes one word for it. -/
def DrawsAtOnce (generator : SeededGenerator) (range : DrawRange) (value : UInt32) : Prop :=
  (generator.draw range).1 = .ok value ∧
    (generator.draw range).2.words.taken = generator.words.taken + 1

/-- The generator issues this event id and takes one word for it. -/
def IssuesAtOnce (generator : SeededGenerator) (id : UInt32) : Prop :=
  (source.nextEventId generator).1 = .ok id ∧
    (source.nextEventId generator).2.words.taken = generator.words.taken + 1

section Draws
variable {range : DrawRange} (hrange : range.lo ≤ range.hi)
include hrange

/-- A value is drawn at once exactly if the next word is accepted for it. -/
theorem drawsAtOnce_offered_iff (generator : SeededGenerator) (word value : UInt32) :
    (generator.offered word).DrawsAtOnce range value ↔ range.accept? word = some value := by
  have hnext : (generator.offered word).words.word generator.words.taken = word := if_pos rfl
  unfold DrawsAtOnce
  rw [Generator.seeded_draw hrange]
  constructor
  -- the draw takes the words up to an accepted one, and it takes only one word
  · rintro ⟨hvalue, htaken⟩
    obtain ⟨i, -, haccept, hafter⟩ := Words.exists_of_draw_eq_ok hrange hvalue
    dsimp only at htaken
    rw [hafter] at htaken
    obtain rfl : i = generator.words.taken := Nat.succ.inj htaken
    rwa [hnext] at haccept
  · intro haccept
    have hoffered : range.accept? ((generator.offered word).words.word
        (generator.offered word).words.taken) = some value := by
      rw [← haccept]
      exact congrArg range.accept? hnext
    rw [Words.draw_of_accept? hrange hoffered]
    exact ⟨rfl, rfl⟩

end Draws

/-! ## Uniformity -/

/-- All values of a range are drawn alike. -/
structure DrawsUniformly (generator : SeededGenerator) (range : DrawRange) : Prop where
  /-- Each of them is drawn at once for the same number of words, which is a power of two. -/
  element : ∀ value, range.Contains value →
    {word | (generator.offered word).DrawsAtOnce range value}.ncard =
      2 ^ DrawRange.leadingZeros range.size
  /-- Nothing else is drawn. -/
  others : ∀ value, ¬ range.Contains value → ∀ word,
    ¬ (generator.offered word).DrawsAtOnce range value
  /-- So the words that end a draw at once are the elements times this power. -/
  accepted : {word | ∃ value, (generator.offered word).DrawsAtOnce range value}.ncard =
    range.width * 2 ^ DrawRange.leadingZeros range.size
  /-- They are at least half of all words. -/
  half : UInt32.size ≤
    2 * {word | ∃ value, (generator.offered word).DrawsAtOnce range value}.ncard
  /-- The power is the largest that fits: the exponent is the number of leading zeros. -/
  power : range.width * 2 ^ DrawRange.leadingZeros range.size < UInt32.size ∧
    UInt32.size ≤ range.width * 2 ^ (DrawRange.leadingZeros range.size + 1)

/-- All event ids are issued alike. -/
structure IssuesUniformly (generator : SeededGenerator) : Prop where
  /-- Every event id is issued at once for the same number of words. -/
  id : ∀ id, eventIds.Contains id →
    {word | (generator.offered word).IssuesAtOnce id}.ncard = 2 ^ 12
  /-- There are as many as there are numbers of six digits. -/
  count : {id | eventIds.Contains id}.ncard = 900000
  /-- Clamping moves no drawn value, to the bounds least of all. -/
  unmoved : source.nextEventId generator = generator.draw eventIds
  /-- No other id is issued. -/
  others : ∀ id, (source.nextEventId generator).1 = .ok id → eventIds.Contains id

theorem drawsUniformly_of_size {range : DrawRange} (hrange : range.lo ≤ range.hi)
    (hsize : range.size ≠ 0) (generator : SeededGenerator) : DrawsUniformly generator range := by
  obtain ⟨hlow, hhigh⟩ := DrawRange.shifted_width_bounds hrange hsize
  rw [Nat.shiftLeft_eq] at hlow hhigh
  have hword : ∀ value word, (generator.offered word).DrawsAtOnce range value ↔
      range.accept? word = some value :=
    fun value word => drawsAtOnce_offered_iff hrange generator word value
  have haccepted : {word | ∃ value, (generator.offered word).DrawsAtOnce range value}.ncard =
      range.width * 2 ^ DrawRange.leadingZeros range.size := by
    rw [← DrawRange.ncard_accepted hrange hsize]
    congr 1
    ext word
    simp only [Set.mem_ofPred_eq, hword, ← Option.isSome_iff_exists,
      DrawRange.isSome_accept?_iff hrange]
  refine ⟨?_, ?_, haccepted, ?_, hhigh, ?_⟩
  · intro value hvalue
    simp only [hword]
    exact DrawRange.ncard_accept? hrange hsize hvalue
  · intro value hvalue word hdraws
    exact hvalue (DrawRange.contains_of_accept? hrange ((hword value word).mp hdraws))
  · rw [haccepted]
    simp only [UInt32.size] at hlow ⊢
    omega
  · rw [pow_succ, ← Nat.mul_assoc]
    simp only [UInt32.size] at hlow ⊢
    omega

theorem issuesUniformly (generator : SeededGenerator) : IssuesUniformly generator := by
  have huniform := drawsUniformly_of_size eventIds_nonempty (by decide) generator
  have hissues : ∀ id word, (generator.offered word).IssuesAtOnce id ↔
      (generator.offered word).DrawsAtOnce eventIds id := by
    intro id word
    unfold IssuesAtOnce DrawsAtOnce
    rw [nextEventId_eq]
  have hcount : {id | eventIds.Contains id}.ncard = 900000 := by
    rw [← DrawRange.ncard_words_between (show 100000 + 900000 ≤ UInt32.size by decide)]
    congr 1
    ext id
    show eventIds.lo ≤ id ∧ id ≤ eventIds.hi ↔ 100000 ≤ id.toNat ∧ id.toNat < 1000000
    rw [UInt32.le_iff_toNat_le, UInt32.le_iff_toNat_le, Nat.lt_succ_iff]
    exact Iff.rfl
  refine ⟨?_, ?_, nextEventId_eq generator, ?_⟩
  · intro id hid
    simp only [hissues]
    exact huniform.element id hid
  · exact hcount
  · intro id hid
    rw [nextEventId_eq] at hid
    exact contains_of_draw eventIds_nonempty hid

/-- From the range of all words the next word is drawn. -/
theorem drawsAtOnce_allWords_iff (generator : SeededGenerator) (word value : UInt32) :
    (generator.offered word).DrawsAtOnce .allWords value ↔ value = word := by
  have haccept : DrawRange.allWords.accept? word = some word := if_pos (by decide)
  rw [drawsAtOnce_offered_iff (by decide), haccept, Option.some.injEq]
  exact eq_comm

/-- A seeded generator draws uniformly from every range, and so its event ids are uniform too. For a
    value of all words there is one word, which is the value itself. -/
theorem seeded_draws_are_uniform (generator : SeededGenerator) :
    (∀ range : DrawRange, range.lo ≤ range.hi → range ≠ .allWords →
      DrawsUniformly generator range) ∧
      (∀ word value, (generator.offered word).DrawsAtOnce .allWords value ↔ value = word) ∧
      IssuesUniformly generator := by
  refine ⟨?_, drawsAtOnce_allWords_iff generator, issuesUniformly generator⟩
  intro range hrange hwords
  exact drawsUniformly_of_size hrange
    (fun hsize => hwords (DrawRange.eq_allWords_of_size hrange hsize)) generator

/-- Three values, of which no number of words is a third. A quarter of the words is accepted for each
    of them. -/
theorem three_values_are_uniform :
    (⟨5, 7⟩ : DrawRange).lo ≤ (⟨5, 7⟩ : DrawRange).hi ∧ (⟨5, 7⟩ : DrawRange) ≠ .allWords ∧
      DrawRange.leadingZeros (⟨5, 7⟩ : DrawRange).size = 30 ∧ DrawsUniformly (.ofSeed 42) ⟨5, 7⟩ :=
  ⟨by decide, by decide, by decide,
    (seeded_draws_are_uniform (.ofSeed 42)).1 ⟨5, 7⟩ (by decide) (by decide)⟩

end SeededGenerator

end SignalStub
