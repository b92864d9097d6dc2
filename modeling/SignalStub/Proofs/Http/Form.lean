import SignalStub.Proofs.Http.Target

/-! # The forms of targets

    A target is a path with a tail, a whole address, an authority alone, or a star. Its tail is a
    query, a fragment or both, and begins with the first question mark or number sign.

    Every target that is read has one of these forms, and it determines the path: whatever is in
    front of the path and behind it, the path is the same characters in the same order. So a path
    holds nothing of a query and nothing of a fragment.
-/

namespace SignalStub.Http

/-! ## Pieces of targets -/

/-- A path: it begins with a slash and ends before a query and a fragment. -/
def IsPath (path : String) : Prop :=
  path.toList.head? = some '/' ∧ '?' ∉ path.toList ∧ '#' ∉ path.toList

/-- What may stand behind a path: nothing, or something that begins as a query or a fragment. -/
def IsTail (tail : String) : Prop :=
  ∀ c ∈ tail.toList.head?, c = '?' ∨ c = '#'

/-- The characters before the mark of an address. -/
def IsScheme (scheme : String) : Prop :=
  ∀ c ∈ scheme.toList, Uri.isSchemeChar c = true

/-- The characters between the mark of an address and the path. -/
def IsAuthority (authority : String) : Prop :=
  ∀ c ∈ authority.toList, endsAuthority c = false

/-- The path of a target, for each form of targets. -/
inductive PathOf : String → String → Prop
  /-- A path with a tail. -/
  | origin {path tail : String} : IsPath path → IsTail tail → PathOf path (path ++ tail)
  /-- A whole address, in which a scheme and an authority stand in front of the path. -/
  | absolute {scheme authority path tail : String} : IsScheme scheme → IsAuthority authority →
      IsPath path → IsTail tail → PathOf path (scheme ++ "://" ++ authority ++ (path ++ tail))
  /-- A whole address without a path asks for the root. -/
  | root {scheme authority tail : String} : IsScheme scheme → IsAuthority authority →
      IsTail tail → PathOf "/" (scheme ++ "://" ++ authority ++ tail)
  /-- An authority alone has no path. -/
  | authority {host : String} : IsAuthority host → host ≠ "*" → PathOf "" host
  /-- A star stands for itself. -/
  | star : PathOf "*" "*"

/-! ## Tails -/

theorem ends_rawPath_iff (c : Char) :
    (!(decide (c = '?') || decide (c = '#'))) = false ↔ c = '?' ∨ c = '#' := by
  rw [Bool.not_eq_false', Bool.or_eq_true, decide_eq_true_iff, decide_eq_true_iff]

theorem endsAuthority_iff (c : Char) : endsAuthority c = true ↔ c = '/' ∨ c = '?' ∨ c = '#' := by
  unfold endsAuthority
  rw [Bool.or_eq_true, Bool.or_eq_true, decide_eq_true_iff, decide_eq_true_iff,
    decide_eq_true_iff, or_assoc]

theorem rawPath_of_isTail {tail : String} (h : IsTail tail) : rawPath tail = "" := by
  unfold rawPath
  unfold IsTail at h
  cases hcs : tail.toList with
  | nil => rfl
  | cons c cs =>
    rw [hcs] at h
    have hends := (ends_rawPath_iff c).mpr (h c rfl)
    rw [List.takeWhile_cons, hends]
    rfl

theorem notMem_rawPath (target : String) :
    '?' ∉ (rawPath target).toList ∧ '#' ∉ (rawPath target).toList := by
  rw [rawPath, String.toList_ofList]
  constructor
  · intro h
    simpa using List.mem_takeWhile_imp h
  · intro h
    simpa using List.mem_takeWhile_imp h

theorem rawPath_of_isPath {path : String} (h : IsPath path) : rawPath path = path := by
  obtain ⟨-, hquery, hfragment⟩ := h
  have hall : ∀ c ∈ path.toList, (!(decide (c = '?') || decide (c = '#'))) = true := by
    intro c hc
    simp [ne_of_mem_of_not_mem hc hquery, ne_of_mem_of_not_mem hc hfragment]
  rw [rawPath, List.takeWhile_eq_self_iff.mpr hall, String.ofList_toList]

/-- A target goes on with a tail where its raw path ends. -/
theorem exists_tail (target : String) : ∃ tail, IsTail tail ∧ target = rawPath target ++ tail := by
  refine ⟨String.ofList (target.toList.dropWhile fun c => !(c = '?' || c = '#')), ?_, ?_⟩
  · intro c hc
    rw [String.toList_ofList] at hc
    have hends := List.head?_dropWhile_not (fun c => !(decide (c = '?') || decide (c = '#')))
      target.toList
    rw [Option.mem_def.mp hc] at hends
    exact (ends_rawPath_iff c).mp hends
  · rw [rawPath, ← String.ofList_append, List.takeWhile_append_dropWhile, String.ofList_toList]

theorem isPath_rawPath {target : String} (hslash : target.toList.head? = some '/') :
    IsPath (rawPath target) := by
  refine ⟨?_, notMem_rawPath target⟩
  obtain ⟨others, htarget⟩ := List.head?_eq_some_iff.mp hslash
  simp [rawPath, htarget]

/-! ## The form determines the path -/

theorem head?_append_of_isPath {path : String} (h : IsPath path) (tail : String) :
    (path ++ tail).toList.head? = some '/' := by
  rw [String.toList_append, List.head?_append, h.1]
  rfl

theorem PathOf.targetPath_eq {path target : String} (h : PathOf path target) :
    targetPath target = path := by
  cases h with
  | @origin path tail hpath htail =>
    rw [targetPath, if_pos (head?_append_of_isPath hpath tail),
      rawPath_append (rawPath_of_isPath hpath) (rawPath_of_isTail htail)]
  | absolute hscheme hauthority hpath htail =>
    rw [targetPath_of_address hscheme hauthority (head?_append_of_isPath hpath _),
      rawPath_append (rawPath_of_isPath hpath) (rawPath_of_isTail htail)]
  | @root scheme authority tail hscheme hauthority htail =>
    have hends : ∀ c ∈ tail.toList.head?, endsAuthority c = true := by
      intro c hc
      exact (endsAuthority_iff c).mpr (.inr (htail c hc))
    rw [targetPath_of_scheme hscheme hauthority hends, if_pos (rawPath_of_isTail htail)]
  | authority hhost hstar =>
    have hslash : target.toList.head? ≠ some '/' := by
      intro hslash
      have hends := hhost '/' (List.mem_of_mem_head? hslash)
      cases hends
    have hbehind : behindAuthority target.toList = [] :=
      List.dropWhile_eq_nil_iff.mpr (by simpa [IsAuthority] using hhost)
    rw [targetPath, if_neg hslash, if_neg hstar, addressPath_of_behindAuthority hbehind]
  | star => rfl

/-- No path holds the mark of a query or of a fragment. -/
theorem PathOf.notMem {path target : String} (h : PathOf path target) :
    '?' ∉ path.toList ∧ '#' ∉ path.toList := by
  cases h with
  | origin hpath _ => exact hpath.2
  | absolute _ _ hpath _ => exact hpath.2
  | root => decide
  | authority => decide
  | star => decide

/-! ## Every target that is read has a form -/

/-- What is read but a path has a scheme in front, or is an authority alone. -/
theorem Uri.behind_of_ofAddress {cs : List Char} {uri : Uri} (h : Uri.ofAddress cs = .ok uri) :
    (∃ rest, behindScheme? cs = some rest) ∨ behindAuthority cs = [] := by
  unfold Uri.ofAddress at h
  obtain ⟨⟨scheme, rest⟩, hscheme, hread⟩ := exists_of_bind_eq_ok h
  rcases Uri.rest_of_readScheme hscheme with ⟨rfl, rfl⟩ | ⟨-, hbehind⟩
  · obtain ⟨⟨authority, behind⟩, hauthority, hend⟩ := exists_of_bind_eq_ok hread
    have hbehind := Uri.rest_of_readAuthority hauthority
    dsimp only at hend
    split at hend
    next hempty => exact .inr (hbehind ▸ List.isEmpty_iff.mp hempty)
    next => cases hend
  · exact .inl ⟨rest, hbehind⟩

theorem Uri.behind_of_read {target : String} {uri : Uri} (hslash : target.toList.head? ≠ some '/')
    (hstar : target ≠ "*") (h : Uri.read target = .ok uri) :
    (∃ rest, behindScheme? target.toList = some rest) ∨ behindAuthority target.toList = [] := by
  rcases Uri.cases_of_read h with ⟨c, hc, hchar⟩ | ⟨hpath, -⟩ | ⟨-, -, haddress⟩
  · have hkind : ¬ (decide (c = '/') || decide (c = '*')) = true := by
      simpa [hc, ← String.toList_inj] using And.intro hslash hstar
    rw [Uri.ofChar, if_neg hkind] at hchar
    split at hchar
    next => cases hchar
    next authority hauthority =>
      exact .inr (hc ▸ (Uri.rest_of_readAuthority hauthority).symm)
    next => cases hchar
  · exact absurd hpath hslash
  · exact Uri.behind_of_ofAddress haddress

/-- A target with a scheme in front is put together from its scheme, its authority and the rest. -/
theorem exists_scheme_and_authority {target : String} {rest : List Char}
    (h : behindScheme? target.toList = some rest) :
    ∃ scheme authority, IsScheme scheme ∧ IsAuthority authority ∧
      target = scheme ++ "://" ++ authority ++ String.ofList (behindAuthority rest) := by
  refine ⟨String.ofList (target.toList.takeWhile Uri.isSchemeChar),
    String.ofList (rest.takeWhile fun c => !endsAuthority c), ?_, ?_, ?_⟩
  · intro c hc
    rw [String.toList_ofList] at hc
    exact List.mem_takeWhile_imp hc
  · intro c hc
    rw [String.toList_ofList] at hc
    simpa using List.mem_takeWhile_imp hc
  · have hrest : (rest.takeWhile fun c => !endsAuthority c) ++ behindAuthority rest = rest :=
      List.takeWhile_append_dropWhile
    apply String.toList_inj.mp
    simp only [String.toList_append, String.toList_ofList, List.append_assoc, hrest]
    unfold behindScheme? at h
    split at h
    next behind hmark =>
      obtain rfl := Option.some.inj h
      show target.toList = target.toList.takeWhile Uri.isSchemeChar ++ ':' :: '/' :: '/' :: behind
      rw [← hmark, List.takeWhile_append_dropWhile]
    next => cases h

/-- Behind an authority a path begins, or a tail. -/
theorem path_or_tail_behindAuthority (rest : List Char) :
    (String.ofList (behindAuthority rest)).toList.head? = some '/' ∨
      IsTail (String.ofList (behindAuthority rest)) := by
  unfold IsTail
  rw [String.toList_ofList, behindAuthority]
  have hends := List.head?_dropWhile_not (fun c => !endsAuthority c) rest
  cases hhead : (rest.dropWhile fun c => !endsAuthority c).head? with
  | none => exact .inr (by simp)
  | some c =>
    rw [hhead] at hends
    rcases (endsAuthority_iff c).mp ((Bool.not_eq_false' _).mp hends) with rfl | htail
    · exact .inl rfl
    · refine .inr fun d hd => ?_
      rwa [← Option.some.inj hd]

/-- In a whole address the path is the one behind the authority, or the root. -/
theorem pathOf_addressPath {target : String} {rest : List Char}
    (h : behindScheme? target.toList = some rest) : PathOf (addressPath target.toList) target := by
  obtain ⟨scheme, authority, hscheme, hauthority, htarget⟩ := exists_scheme_and_authority h
  have hbehind := path_or_tail_behindAuthority rest
  rw [addressPath, h]
  dsimp only
  generalize String.ofList (behindAuthority rest) = behind at htarget hbehind ⊢
  rw [htarget]
  rcases hbehind with hslash | htail
  · have hpath := isPath_rawPath hslash
    obtain ⟨tail, htail, hparts⟩ := exists_tail behind
    have hnonempty : rawPath behind ≠ "" := by
      intro hempty
      have hhead := hpath.1
      rw [hempty] at hhead
      cases hhead
    have habsolute := PathOf.absolute hscheme hauthority hpath htail
    rw [if_neg hnonempty]
    rwa [← hparts] at habsolute
  · rw [if_pos (rawPath_of_isTail htail)]
    exact .root hscheme hauthority htail

/-- The path of a target that is read is the path of its form. -/
theorem pathOf_of_read {target : String} {uri : Uri} (h : Uri.read target = .ok uri) :
    PathOf uri.path target := by
  rw [Uri.path_eq_targetPath h]
  by_cases hslash : target.toList.head? = some '/'
  · obtain ⟨tail, htail, hparts⟩ := exists_tail target
    have horigin := PathOf.origin (isPath_rawPath hslash) htail
    rw [targetPath, if_pos hslash]
    rwa [← hparts] at horigin
  · rw [targetPath, if_neg hslash]
    by_cases hstar : target = "*"
    · rw [if_pos hstar, hstar]
      exact .star
    · rw [if_neg hstar]
      rcases Uri.behind_of_read hslash hstar h with ⟨rest, hrest⟩ | hbehind
      · exact pathOf_addressPath hrest
      · rw [addressPath_of_behindAuthority hbehind]
        have hall := List.dropWhile_eq_nil_iff.mp hbehind
        exact .authority (by simpa [IsAuthority] using hall) hstar

/-- A target that is read has the path of its form and no other. -/
theorem pathOf_iff {target : String} {uri : Uri} (h : Uri.read target = .ok uri) (path : String) :
    PathOf path target ↔ path = uri.path := by
  constructor
  · intro hpath
    rw [Uri.path_eq_targetPath h, hpath.targetPath_eq]
  · rintro rfl
    exact pathOf_of_read h

end SignalStub.Http
