import SignalStub.Route.Pattern
import SignalStub.Settings.WritePath

/-! # Accepted write paths

    The check reads as a condition: an accepted path begins at the root, holds literal characters
    only, and is none of the probes' paths. No literal character begins a wildcard, so a router
    takes an accepted path at its word.
-/

namespace SignalStub.WritePath

open Route

/-- A path is accepted exactly if none of the three faults is found. -/
theorem check_eq_ok_iff (path : String) :
    check path = .ok () ↔
      isAbsolute path = true ∧ (∀ c ∈ path.toList, isLiteral c = true) ∧
        path ≠ livezPath ∧ path ≠ healthzPath := by
  unfold check
  cases habsolute : isAbsolute path with
  | false => simp
  | true =>
    cases hfind : path.toList.find? fun c => !isLiteral c with
    | some c =>
      have hc := List.find?_some hfind
      have hmem := List.mem_of_find?_eq_some hfind
      simp only [Bool.not_true, Bool.false_eq_true, if_false, reduceCtorEq, true_and, false_iff]
      rintro ⟨hall, -⟩
      simp [hall c hmem] at hc
    | none =>
      have hall : ∀ c ∈ path.toList, isLiteral c = true := by
        simpa [List.find?_eq_none] using hfind
      by_cases hreserved : path = livezPath ∨ path = healthzPath
      · rcases hreserved with rfl | rfl <;> simp
      · obtain ⟨hlivez, hhealthz⟩ := not_or.mp hreserved
        simp only [Bool.not_true, Bool.false_eq_true, if_false, hlivez, hhealthz, decide_false,
          Bool.or_self, true_and, ne_eq, not_false_eq_true, and_self, and_true, true_iff]
        exact hall

/-- An accepted path is none of the probes'. -/
theorem ne_probes_of_check {path : String} (h : check path = .ok ()) :
    path ≠ livezPath ∧ path ≠ healthzPath := by
  obtain ⟨-, -, hprobes⟩ := (check_eq_ok_iff path).mp h
  exact hprobes

/-- An absolute path is a slash with something behind it. -/
theorem toList_of_isAbsolute {path : String} (h : isAbsolute path = true) :
    ∃ rest, path.toList = '/' :: rest := by
  unfold isAbsolute at h
  cases hpath : path.toList with
  | nil => simp [hpath] at h
  | cons c rest =>
    have hc : c = '/' := by simpa [hpath] using h
    exact ⟨rest, by rw [hc]⟩

/-- No literal character begins a wildcard. -/
theorem isWildcard_of_isLiteral {c : Char} (h : isLiteral c = true) : isWildcard c = false := by
  by_cases hcolon : c = ':'
  · subst hcolon
    exact absurd h (by decide)
  · by_cases hstar : c = '*'
    · subst hstar
      exact absurd h (by decide)
    · simp [isWildcard, hcolon, hstar]

/-- The probes' paths would be accepted but for the probes. -/
theorem isLiteral_of_mem_livezPath : ∀ c ∈ livezPath.toList, isLiteral c = true :=
  List.all_eq_true.mp (by decide)

theorem isLiteral_of_mem_healthzPath : ∀ c ∈ healthzPath.toList, isLiteral c = true :=
  List.all_eq_true.mp (by decide)

end SignalStub.WritePath
