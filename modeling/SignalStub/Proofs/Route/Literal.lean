import Mathlib.Data.List.Find
import SignalStub.Route.Router

/-! # Routers of literal paths

    A path without a wildcard is a pattern for itself alone. In a router whose paths are all of
    this kind nothing is left of patterns: a new path is always granted, and a path is looked up by
    plain comparison with the paths of the table.
-/

namespace SignalStub.Route

/-! ## Patterns -/

/-- The pieces of a path that stands for itself. -/
def literals (cs : List Char) : List Piece := cs.map .literal

/-- No character of the path begins a wildcard. -/
def IsPlain (path : String) : Prop := ∀ c ∈ path.toList, isWildcard c = false

theorem readPieces_outside {cs : List Char} (h : ∀ c ∈ cs, isWildcard c = false) :
    readPieces .outside cs = .ok (literals cs) := by
  induction cs with
  | nil => rfl
  | cons c cs ih =>
    have hc : isWildcard c = false := h c (by simp)
    have hcs := ih fun d hd => h d (by simp [hd])
    have hcolon : c ≠ ':' := by rintro rfl; simp [isWildcard] at hc
    have hstar : c ≠ '*' := by rintro rfl; simp [isWildcard] at hc
    rw [readPieces, if_neg hcolon, if_neg hstar, hcs]
    rfl

theorem read_of_isPlain {path : String} (h : IsPlain path) :
    Pattern.read path = .ok (literals path.toList) :=
  readPieces_outside h

theorem isLiteral_literals (cs : List Char) : Pattern.isLiteral (literals cs) = true := by
  simp [Pattern.isLiteral, literals]

/-- A literal pattern has one instance. -/
theorem fits_literals (cs ds : List Char) : Pattern.fits (literals cs) ds = true ↔ ds = cs := by
  induction cs generalizing ds with
  | nil => cases ds <;> simp [literals, Pattern.fits]
  | cons c cs ih =>
    cases ds with
    | nil => simp [literals, Pattern.fits]
    | cons d ds =>
      have htail := ih ds
      simp only [literals] at htail
      simp [literals, Pattern.fits, htail]

/-- Two literal patterns stand in each other's way only if they are the same. -/
theorem clash_literals (cs ds : List Char) :
    Router.clash (literals cs) (literals ds) = true ↔ cs = ds := by
  induction cs generalizing ds with
  | nil => cases ds <;> simp [literals, Router.clash]
  | cons c cs ih =>
    cases ds with
    | nil => simp [literals, Router.clash]
    | cons d ds =>
      have htail := ih ds
      simp only [literals] at htail
      simp [literals, Router.clash, htail]

/-! ## Tables -/

section Tables
variable {η : Type}

/-- The entry of a literal path with one endpoint. -/
def Entry.plain (path : String) (method : Http.Method) (endpoint : η) : Entry η :=
  ⟨path, literals path.toList, [(method, endpoint)]⟩

/-- The path of the entry stands for itself. -/
def Entry.IsPlain (entry : Entry η) : Prop := entry.pieces = literals entry.path.toList

@[simp] theorem Entry.isPlain_plain (path : String) (method : Http.Method) (endpoint : η) :
    (Entry.plain path method endpoint).IsPlain := rfl

/-- Every path of the table stands for itself. -/
def Router.IsPlain (router : Router η) : Prop := ∀ entry ∈ router.entries, entry.IsPlain

/-- A path that the table does not have becomes its last entry. -/
theorem Router.insert_plain (path : String) (method : Http.Method) (endpoint : η)
    (entries : List (Entry η)) (hplain : Router.IsPlain ⟨entries⟩)
    (hnew : ∀ entry ∈ entries, entry.path ≠ path) :
    Router.insert path (literals path.toList) method endpoint entries =
      .ok (entries ++ [Entry.plain path method endpoint]) := by
  induction entries with
  | nil => rfl
  | cons entry entries ih =>
    have hpath : entry.path ≠ path := hnew entry (by simp)
    have hpieces : entry.pieces = literals entry.path.toList := hplain entry (by simp)
    have hrest := ih (fun e he => hplain e (by simp [he])) (fun e he => hnew e (by simp [he]))
    have hclash : ¬ Router.clash entry.pieces (literals path.toList) = true := by
      rw [hpieces, clash_literals]
      intro heq
      exact hpath (String.toList_inj.mp heq)
    rw [Router.insert, if_neg hpath, if_neg hclash, hrest]
    rfl

/-- Adding a new literal path to a table of literal paths is never refused. -/
theorem Router.route_plain {entries : List (Entry η)} (hplain : Router.IsPlain ⟨entries⟩)
    {path : String} (habsolute : ∃ rest, path.toList = '/' :: rest) (hliteral : Route.IsPlain path)
    (hnew : ∀ entry ∈ entries, entry.path ≠ path) (method : Http.Method) (endpoint : η) :
    Router.route ⟨entries⟩ path method endpoint =
      .ok ⟨entries ++ [Entry.plain path method endpoint]⟩ := by
  obtain ⟨rest, hrest⟩ := habsolute
  have hinsert := Router.insert_plain path method endpoint entries hplain hnew
  simp only [Router.route, hrest, ne_eq, not_true_eq_false, if_false]
  simp only [read_of_isPlain hliteral, hinsert]
  rfl

/-- In a table of literal paths a lookup compares texts. -/
theorem Router.lookup?_plain {router : Router η} (hplain : router.IsPlain) (path : String) :
    router.lookup? path = router.entries.find? fun entry => entry.path == path := by
  have hfirst : router.entries.find?
      (fun entry => Pattern.isLiteral entry.pieces && entry.path == path) =
        router.entries.find? fun entry => entry.path == path := by
    apply List.find?_congr
    intro entry hentry
    rw [hplain entry hentry, isLiteral_literals, Bool.true_and]
  unfold Router.lookup?
  rw [hfirst]
  cases hfind : router.entries.find? fun entry => entry.path == path with
  | some entry => rfl
  | none =>
    -- a literal pattern that fitted would be the path itself
    simp only [List.find?_eq_none] at hfind ⊢
    intro entry hentry hfits
    rw [hplain entry hentry, fits_literals] at hfits
    exact hfind entry hentry (by simp [String.toList_inj.mp hfits])

end Tables

end SignalStub.Route
