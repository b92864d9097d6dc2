import SignalStub.Proofs.EventId.Sequence
import SignalStub.Proofs.Number.Rounding
import SignalStub.Proofs.Settings.Reading
import SignalStub.Proofs.Settings.Slot
import SignalStub.Stub.Listen

/-! # Seeds from texts

    A seed is any unsigned 64-bit number, but its text is read before anyone knows that a seed is
    wanted. The lower half of the seeds fits a signed integer and is kept. The upper half does not:
    it goes through a double, which has 53 binary digits for a number of 64, so what is loaded is
    the nearest multiple of 2048.

    Every seed is loaded, and the service runs on the sequence of the seed that was loaded. Whether
    that is the seed that was written depends on the seed alone.
-/

namespace SignalStub.Settings

open Number Binary64

/-! ## The number that is loaded -/

/-- The number that is loaded for the decimal text of an unsigned 64-bit number. -/
def nearestLoaded (n : Nat) : Nat :=
  if n < 9223372036854775808 then n else min (2048 * roundHalfEven n 2048) maxUnsigned64

/-- The numbers that are loaded as they are written: those that fit a signed word, those that a
    double keeps, and the largest one, to which everything above it is cut. -/
def IsKept (n : Nat) : Prop :=
  n < 9223372036854775808 ∨ n % 2048 = 0 ∨ n = maxUnsigned64

instance : DecidablePred IsKept := fun n =>
  inferInstanceAs (Decidable (n < 9223372036854775808 ∨ n % 2048 = 0 ∨ n = maxUnsigned64))

section Nearest
variable {n : Nat} (hn : n ≤ maxUnsigned64)
include hn

theorem nearestLoaded_le : nearestLoaded n ≤ maxUnsigned64 := by
  unfold nearestLoaded
  split
  next => exact hn
  next => exact Nat.min_le_right _ _

/-- Loading moves a number by half of 2048 at most. -/
theorem nearestLoaded_near : n ≤ nearestLoaded n + 1024 ∧ nearestLoaded n ≤ n + 1024 := by
  have hnear := roundHalfEven_near n (show 0 < 2048 by decide)
  unfold nearestLoaded
  split
  next => omega
  -- the cut to the range only takes the multiple back towards the number
  next => omega

/-- The numbers that do not fit a signed word stay apart from those that do. -/
theorem nearestLoaded_wide : 9223372036854775808 ≤ nearestLoaded n ↔ 9223372036854775808 ≤ n := by
  have hfloor := div_le_roundHalfEven n 2048
  have hmax : maxUnsigned64 = 18446744073709551615 := rfl
  unfold nearestLoaded
  split
  next => exact Iff.rfl
  -- the least number of the upper half is a multiple of 2048 itself
  next => omega

theorem nearestLoaded_eq_iff : nearestLoaded n = n ↔ IsKept n := by
  have hnear := roundHalfEven_near n (show 0 < 2048 by decide)
  have hmax : maxUnsigned64 = 18446744073709551615 := rfl
  unfold nearestLoaded IsKept
  split
  next hsmall => exact ⟨fun _ => .inl hsmall, fun _ => rfl⟩
  -- a multiple is its own nearest one, and the largest number is what larger ones are cut to
  next => omega

/-- The first number that is not kept. -/
example : ¬ IsKept 9223372036854775809 := by
  decide

/-- Two numbers are loaded as one only if a signed word holds none of them and they are near each
    other. -/
theorem nearestLoaded_collide {m : Nat} (hm : m ≤ maxUnsigned64)
    (h : nearestLoaded m = nearestLoaded n) :
    m = n ∨ 9223372036854775808 ≤ m ∧ 9223372036854775808 ≤ n ∧ m ≤ n + 2048 ∧ n ≤ m + 2048 := by
  have hnearM := nearestLoaded_near hm
  have hnearN := nearestLoaded_near hn
  have hwide : 9223372036854775808 ≤ m ↔ 9223372036854775808 ≤ n := by
    rw [← nearestLoaded_wide hm, ← nearestLoaded_wide hn, h]
  by_cases hlow : n < 9223372036854775808
  -- in the lower half both are kept
  · have hlow' : m < 9223372036854775808 := by omega
    rw [nearestLoaded, if_pos hlow', nearestLoaded, if_pos hlow] at h
    exact .inl h
  · refine .inr ⟨?_, ?_, ?_, ?_⟩ <;> omega

end Nearest

/-! ## Seeds -/

/-- The seed that is loaded for the decimal text of a seed. -/
def loadedSeed (seed : UInt64) : UInt64 :=
  .ofNat (nearestLoaded seed.toNat)

theorem toNat_le_maxUnsigned64 (seed : UInt64) : seed.toNat ≤ maxUnsigned64 :=
  Nat.le_of_lt_succ seed.toNat_lt

theorem toNat_loadedSeed (seed : UInt64) : (loadedSeed seed).toNat = nearestLoaded seed.toNat :=
  UInt64.toNat_ofNat_of_lt (Nat.lt_succ_of_le (nearestLoaded_le (toNat_le_maxUnsigned64 seed)))

/-- The text of a seed is always read. -/
theorem readSeed_repr (key : String) (seed : UInt64) :
    readSeed key (.scalar (.read seed.toNat.repr)) = .ok (loadedSeed seed) := by
  have hread := readUnsigned64_integerText key (seed.toNat : Int)
  have htext : integerText (seed.toNat : Int) = seed.toNat.repr := rfl
  have hnonnegative : (0 : Int) ≤ seed.toNat := Int.natCast_nonneg _
  have hsign : decide ((seed.toNat : Int) < 0) = false := decide_eq_false (by omega)
  have hnearest : readUnsigned64 key (.scalar (.read seed.toNat.repr)) =
      .ok (nearestLoaded seed.toNat) := by
    rw [← htext, hread]
    -- the lower half is read as an integer, the upper half as a double
    by_cases hlow : seed.toNat < 9223372036854775808
    · have hfits : FitsInt64 seed.toNat := ⟨by omega, by omega⟩
      rw [if_pos hfits, if_pos hnonnegative, nearestLoaded, if_pos hlow]
      rfl
    · have hwide : ¬ FitsInt64 seed.toNat := fun hfits => hlow (by have := hfits.2; omega)
      rw [if_neg hwide, hsign, Int.natAbs_natCast, nearestLoaded, if_neg hlow,
        toUnsigned64_of_wide (Nat.not_lt.mp hlow) (toNat_le_maxUnsigned64 seed)]
  unfold readSeed
  rw [hnearest]
  rfl

theorem load_of_assigns_seed {env : Environment} {seed : UInt64} {rest : Settings}
    (h : env.Assigns "id_seed" seed.toNat.repr rest) :
    load env = .ok { rest with idSeed := some (loadedSeed seed) } := by
  have hslot : env.Assigns Slot.idSeed.key seed.toNat.repr rest := h
  have hread : Kind.seed.read Slot.idSeed.key (.scalar (.read seed.toNat.repr)) =
      .ok (some (loadedSeed seed)) := by
    show (readSeed _ _).map some = _
    rw [readSeed_repr]
    rfl
  exact load_of_assigns_ok hslot (by decide) hread

theorem loadedSeed_eq_iff (seed : UInt64) : loadedSeed seed = seed ↔ IsKept seed.toNat := by
  rw [← nearestLoaded_eq_iff (toNat_le_maxUnsigned64 seed), ← toNat_loadedSeed]
  exact UInt64.toNat_inj.symm

/-- What loading makes of variables that set the seed to a decimal text. -/
structure LoadsNearestSeed (env : Environment) (seed : UInt64) (rest : Settings) : Prop where
  /-- Settings are loaded, and no other setting is affected. -/
  loads : load env = .ok { rest with idSeed := some (loadedSeed seed) }
  /-- These are the seeds that are loaded as they are written. -/
  kept : (∃ settings, load env = .ok settings ∧ settings.idSeed = some seed) ↔ IsKept seed.toNat
  /-- The others are loaded as a near seed. -/
  near : seed.toNat ≤ (loadedSeed seed).toNat + 1024 ∧ (loadedSeed seed).toNat ≤ seed.toNat + 1024
  /-- Two seeds are loaded as one only in the upper half, and only if they are near each other. -/
  apart : ∀ {other : Environment} {second : UInt64} {rest' settings settings' : Settings},
    other.Assigns "id_seed" second.toNat.repr rest' → load env = .ok settings →
      load other = .ok settings' → settings'.idSeed = settings.idSeed →
        second = seed ∨ 9223372036854775808 ≤ second.toNat ∧ 9223372036854775808 ≤ seed.toNat ∧
          second.toNat ≤ seed.toNat + 2048 ∧ seed.toNat ≤ second.toNat + 2048
  /-- The service draws the sequence of the seed that was loaded. -/
  sequence : ∀ settings, load env = .ok settings → ∀ entropy count,
    (Generator.source.nextEventIds count (makeSource entropy settings.idSeed).1).1 =
      (SeededGenerator.source.nextEventIds count (.ofSeed (loadedSeed seed))).1

/-- The text of every seed is loaded, as the seed that it goes to when a double takes its place in
    the upper half. -/
theorem seed_text_loads_nearest {env : Environment} {seed : UInt64} {rest : Settings}
    (h : env.Assigns "id_seed" seed.toNat.repr rest) : LoadsNearestSeed env seed rest := by
  have hload := load_of_assigns_seed h
  have hseed : ∀ {settings}, load env = .ok settings →
      settings.idSeed = some (loadedSeed seed) := by
    intro settings hsettings
    rw [hload] at hsettings
    rw [← Except.ok.inj hsettings]
  constructor
  case loads => exact hload
  case kept =>
    rw [← loadedSeed_eq_iff]
    constructor
    · rintro ⟨settings, hsettings, hwritten⟩
      exact Option.some.inj ((hseed hsettings).symm.trans hwritten)
    · intro hsame
      exact ⟨_, hload, congrArg some hsame⟩
  case near =>
    rw [toNat_loadedSeed]
    exact nearestLoaded_near (toNat_le_maxUnsigned64 seed)
  case apart =>
    intro other second rest' settings settings' hother hsettings hsettings' hsame
    rw [load_of_assigns_seed hother] at hsettings'
    rw [hseed hsettings, ← Except.ok.inj hsettings'] at hsame
    have hloaded := congrArg UInt64.toNat (Option.some.inj hsame)
    rw [toNat_loadedSeed, toNat_loadedSeed] at hloaded
    rw [← UInt64.toNat_inj]
    exact nearestLoaded_collide (toNat_le_maxUnsigned64 seed) (toNat_le_maxUnsigned64 second)
      hloaded
  case sequence =>
    intro settings hsettings entropy count
    rw [hseed hsettings]
    -- the service wraps its generator, which changes no draw
    have hembed := SeededGenerator.source.nextEventIds_embed Generator.source Generator.seeded
      (fun _ _ => rfl) count (.ofSeed (loadedSeed seed))
    exact congrArg Prod.fst hembed

/-- The only variable sets the seed to the text of a number. -/
theorem assigns_seed_alone {seed : UInt64} {text : String} (htext : seed.toNat.repr = text) :
    Environment.Assigns [("ID_SEED", text)] "id_seed" seed.toNat.repr default := by
  rw [htext]
  exact Environment.assigns_alone "ID_SEED" text (by decide)

/-- The largest seed is loaded as it is. -/
theorem largest_seed_loads :
    Environment.Assigns [("ID_SEED", "18446744073709551615")] "id_seed"
        (18446744073709551615 : UInt64).toNat.repr default ∧
      LoadsNearestSeed [("ID_SEED", "18446744073709551615")] 18446744073709551615 default := by
  have h : Environment.Assigns [("ID_SEED", "18446744073709551615")] "id_seed"
      (18446744073709551615 : UInt64).toNat.repr default := assigns_seed_alone (by decide +kernel)
  exact ⟨h, seed_text_loads_nearest h⟩

/-- The first seed that a double does not keep is loaded as the seed before it, and the two seeds
    are loaded as one. -/
theorem seed_past_signed_range_is_rounded :
    load [("ID_SEED", "9223372036854775809")] =
        .ok { default with idSeed := some 9223372036854775808 } ∧
      load [("ID_SEED", "9223372036854775809")] = load [("ID_SEED", "9223372036854775808")] := by
  have htextPast : (9223372036854775809 : UInt64).toNat.repr = "9223372036854775809" := by
    decide +kernel
  have htextLast : (9223372036854775808 : UInt64).toNat.repr = "9223372036854775808" := by
    decide +kernel
  have hpast := load_of_assigns_seed (assigns_seed_alone htextPast)
  have hlast := load_of_assigns_seed (assigns_seed_alone htextLast)
  have hrounded : loadedSeed 9223372036854775809 = 9223372036854775808 := by decide
  have hkept : loadedSeed 9223372036854775808 = 9223372036854775808 := by decide
  rw [hrounded] at hpast
  rw [hkept] at hlast
  exact ⟨hpast, hpast.trans hlast.symm⟩

end SignalStub.Settings
