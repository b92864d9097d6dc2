import Mathlib.Data.List.TakeWhile
import Mathlib.Tactic.SplitIfs
import SignalStub.Http.Message
import SignalStub.Proofs.Outcome
import SignalStub.Proofs.Text.LetterCase

/-! # The path of a target

    A target that begins with a slash is a path with an optional query and fragment. Its path is
    what stands before the first question mark or number sign, character for character: nothing is
    decoded and no slash is dropped.

    In a whole address a scheme and an authority stand in front of the path, and change nothing
    about it. The two other forms have no path of their own: a star stands for itself, and an
    authority alone asks for nothing.
-/

namespace SignalStub.Http

/-- What stands in a target before its query and its fragment. -/
def rawPath (target : String) : String :=
  String.ofList (target.toList.takeWhile fun c => !(c = '?' || c = '#'))

theorem Uri.path_of_readPathQuery {cs path : List Char} {query : Option (List Char)}
    (h : Uri.readPathQuery cs = .ok (path, query)) :
    path = cs.takeWhile fun c => !(c = '?' || c = '#') := by
  unfold Uri.readPathQuery Uri.splitAt at h
  grind

/-- A target that is read is a single character, a path, or anything else with more characters. -/
theorem Uri.cases_of_read {target : String} {uri : Uri} (h : Uri.read target = .ok uri) :
    (∃ c, target.toList = [c] ∧ Uri.ofChar c = .ok uri) ∨
      target.toList.head? = some '/' ∧ Uri.ofPath target.toList = .ok uri ∨
        target.toList.head? ≠ some '/' ∧ target ≠ "*" ∧ Uri.ofAddress target.toList = .ok uri := by
  unfold Uri.read at h
  split at h
  next => cases h
  next =>
    split at h
    next => cases h
    next c hc => exact .inl ⟨c, hc, h⟩
    next cs _ hmany =>
      by_cases hslash : target.toList.head? = some '/'
      · rw [if_pos hslash] at h
        exact .inr (.inl ⟨hslash, h⟩)
      · have hstar : target ≠ "*" := by
          rintro rfl
          exact hmany '*' rfl
        rw [if_neg hslash] at h
        exact .inr (.inr ⟨hslash, hstar, h⟩)

/-- The path that is read is the raw path. -/
theorem Uri.path_of_read {target : String} {uri : Uri} (hslash : target.toList.head? = some '/')
    (hread : Uri.read target = .ok uri) : uri.path = rawPath target := by
  unfold rawPath
  rcases Uri.cases_of_read hread with ⟨c, hc, hchar⟩ | ⟨-, hpath⟩ | ⟨hother, -, -⟩
  · obtain rfl : c = '/' := by simpa [hc] using hslash
    have huri : uri = ⟨none, none, String.singleton '/', none⟩ := by
      simpa [Uri.ofChar] using hchar.symm
    rw [huri, hc]
    exact String.singleton_eq_ofList
  · unfold Uri.ofPath at hpath
    obtain ⟨⟨path, query⟩, hparts, huri⟩ := exists_of_bind_eq_ok hpath
    rw [← Except.ok.inj huri, Uri.path_of_readPathQuery hparts]
  · exact absurd hslash hother

/-! ## Whole addresses -/

/-- What stands behind the scheme of a whole address. -/
def behindScheme? (cs : List Char) : Option (List Char) :=
  match cs.dropWhile Uri.isSchemeChar with
  | ':' :: '/' :: '/' :: rest => some rest
  | _ => none

/-- Whether a character ends an authority. -/
def endsAuthority (c : Char) : Bool := c = '/' || c = '?' || c = '#'

/-- What stands behind an authority. -/
def behindAuthority (cs : List Char) : List Char :=
  cs.dropWhile fun c => !endsAuthority c

/-- The path that stands in an address. A whole address without a path asks for the root, and an
    authority alone has no path. -/
def addressPath (cs : List Char) : String :=
  match behindScheme? cs with
  | none => ""
  | some rest =>
    let path := rawPath (String.ofList (behindAuthority rest))
    if path = "" then "/" else path

/-- The path that stands in a target of any form. -/
def targetPath (target : String) : String :=
  if target.toList.head? = some '/' then rawPath target
  else if target = "*" then "*"
  else addressPath target.toList

/-! ### Schemes -/

theorem isSchemeChar_of_toLower {c : Char} (h : c.toLower.isAlpha = true) :
    Uri.isSchemeChar c = true := by
  simp [Uri.isSchemeChar, Char.isAlphanum, Text.isAlpha_of_toLower h]

/-- A word of letters with the mark behind it is a scheme, in any letter case. -/
theorem behindScheme?_of_startsWith (word : List Char) (hword : ∀ c ∈ word, c.isAlpha = true)
    {cs : List Char} (h : Uri.startsWith (word ++ "://".toList) cs = true) :
    behindScheme? cs = some (cs.drop (word.length + 3)) := by
  have hstart : (cs.take (word.length + 3)).map Char.toLower = word ++ "://".toList := by
    simpa [Uri.startsWith] using h
  clear h
  induction word generalizing cs with
  | nil =>
    match cs, hstart with
    | [], hstart | [_], hstart | [_, _], hstart => simp at hstart
    | a :: b :: c :: rest, hstart =>
      obtain ⟨ha, hb, hc⟩ : a.toLower = ':' ∧ b.toLower = '/' ∧ c.toLower = '/' := by
        simpa using hstart
      rw [Text.eq_of_toLower rfl ha, Text.eq_of_toLower rfl hb, Text.eq_of_toLower rfl hc]
      rfl
  | cons letter word ih =>
    match cs, hstart with
    | [], hstart => simp at hstart
    | a :: rest, hstart =>
      rw [List.length_cons, Nat.succ_add, List.take_succ_cons, List.map_cons,
        List.cons_append] at hstart
      obtain ⟨ha, hrest⟩ := List.cons.inj hstart
      have hscheme : Uri.isSchemeChar a = true := by
        apply isSchemeChar_of_toLower
        rw [ha]
        exact hword letter List.mem_cons_self
      have htail := ih (fun c hc => hword c (List.mem_cons_of_mem _ hc)) hrest
      have hskip : behindScheme? (a :: rest) = behindScheme? rest := by
        rw [behindScheme?, behindScheme?, List.dropWhile_cons_of_pos hscheme]
      rw [hskip, htail, List.length_cons, Nat.succ_add, List.drop_succ_cons]

/-- Where no slash stands there is no scheme. -/
theorem behindScheme?_eq_none {cs : List Char} (h : '/' ∉ cs) : behindScheme? cs = none := by
  unfold behindScheme?
  split
  next rest hmark =>
    have hsuffix : ':' :: '/' :: '/' :: rest <:+ cs := hmark ▸ List.dropWhile_suffix _
    exact absurd (hsuffix.subset (by simp)) h
  next => rfl

/-- A scheme that is read is split off with its mark, and without one nothing is split off. -/
theorem Uri.rest_of_readScheme {cs rest : List Char} {scheme : Option (List Char)}
    (h : Uri.readScheme cs = .ok (scheme, rest)) :
    (scheme = none ∧ rest = cs) ∨ (∃ name, scheme = some name) ∧ behindScheme? cs = some rest := by
  unfold Uri.readScheme at h
  -- the two usual schemes are found in any letter case, every other one up to its mark
  split at h
  next hhttp =>
    obtain ⟨rfl, rfl⟩ := Prod.mk.inj (Except.ok.inj h)
    have hletters := List.all_eq_true.mp (show "http".toList.all Char.isAlpha = true by decide)
    exact .inr ⟨⟨_, rfl⟩, behindScheme?_of_startsWith _ hletters hhttp⟩
  next =>
    split at h
    next hhttps =>
      obtain ⟨rfl, rfl⟩ := Prod.mk.inj (Except.ok.inj h)
      have hletters := List.all_eq_true.mp (show "https".toList.all Char.isAlpha = true by decide)
      exact .inr ⟨⟨_, rfl⟩, behindScheme?_of_startsWith _ hletters hhttps⟩
    next =>
      dsimp only at h
      split at h
      next behind hmark =>
        split at h
        next =>
          obtain ⟨rfl, rfl⟩ := Prod.mk.inj (Except.ok.inj h)
          exact .inl ⟨rfl, rfl⟩
        next =>
          split at h
          next => cases h
          next =>
            obtain ⟨rfl, rfl⟩ := Prod.mk.inj (Except.ok.inj h)
            refine .inr ⟨⟨_, rfl⟩, ?_⟩
            simp only [behindScheme?, hmark]
      next =>
        obtain ⟨rfl, rfl⟩ := Prod.mk.inj (Except.ok.inj h)
        exact .inl ⟨rfl, rfl⟩

/-! ### Authorities -/

theorem Uri.rest_of_readAuthority {cs authority rest : List Char}
    (h : Uri.readAuthority cs = .ok (authority, rest)) : rest = behindAuthority cs := by
  unfold Uri.readAuthority Uri.splitAt at h
  unfold behindAuthority endsAuthority
  grind

/-- An authority with nothing behind it is no whole address. -/
theorem addressPath_of_behindAuthority {cs : List Char} (h : behindAuthority cs = []) :
    addressPath cs = "" := by
  have hslash : '/' ∉ cs := by
    intro hmem
    have hends := List.dropWhile_eq_nil_iff.mp h '/' hmem
    cases hends
  rw [addressPath, behindScheme?_eq_none hslash]

/-! ### Targets -/

theorem Uri.path_of_ofAddress {cs : List Char} {uri : Uri} (h : Uri.ofAddress cs = .ok uri) :
    uri.path = addressPath cs := by
  unfold Uri.ofAddress at h
  obtain ⟨⟨scheme, rest⟩, hscheme, hread⟩ := exists_of_bind_eq_ok h
  clear h
  rcases Uri.rest_of_readScheme hscheme with ⟨rfl, rfl⟩ | ⟨⟨name, rfl⟩, hbehind⟩
  · -- an authority alone has nothing behind it, and so no scheme in front
    obtain ⟨⟨authority, behind⟩, hauthority, hend⟩ := exists_of_bind_eq_ok hread
    have hbehind := Uri.rest_of_readAuthority hauthority
    dsimp only at hend
    split at hend
    next hempty =>
      have hnothing : behindAuthority rest = [] := hbehind ▸ List.isEmpty_iff.mp hempty
      rw [addressPath_of_behindAuthority hnothing, ← Except.ok.inj hend]
    next => cases hend
  · obtain ⟨⟨authority, tail⟩, hauthority, hend⟩ := exists_of_bind_eq_ok hread
    have htail := Uri.rest_of_readAuthority hauthority
    dsimp only at hend
    split at hend
    next => cases hend
    next =>
      obtain ⟨⟨path, query⟩, hparts, huri⟩ := exists_of_bind_eq_ok hend
      have hpath := Uri.path_of_readPathQuery hparts
      simp only [addressPath, hbehind, rawPath, String.toList_ofList]
      rw [← htail, ← hpath, ← Except.ok.inj huri]
      simp

/-- A single character that is no slash is a star or a host. -/
theorem Uri.path_of_ofChar {c : Char} {uri : Uri} (hslash : c ≠ '/') (h : Uri.ofChar c = .ok uri) :
    uri.path = if c = '*' then "*" else addressPath [c] := by
  unfold Uri.ofChar at h
  split at h
  next hkind =>
    obtain rfl : c = '*' := by simpa [hslash] using hkind
    rw [if_pos rfl, ← Except.ok.inj h]
    rfl
  next hkind =>
    have hstar : c ≠ '*' := by
      rintro rfl
      exact hkind (by decide)
    rw [if_neg hstar]
    split at h
    next => cases h
    next authority hauthority =>
      rw [addressPath_of_behindAuthority (Uri.rest_of_readAuthority hauthority).symm,
        ← Except.ok.inj h]
    next => cases h

/-- The path of a target that is read is the path that stands in it. -/
theorem Uri.path_eq_targetPath {target : String} {uri : Uri} (h : Uri.read target = .ok uri) :
    uri.path = targetPath target := by
  by_cases hslash : target.toList.head? = some '/'
  · rw [targetPath, if_pos hslash]
    exact Uri.path_of_read hslash h
  · rw [targetPath, if_neg hslash]
    rcases Uri.cases_of_read h with ⟨c, hc, hchar⟩ | ⟨hpath, -⟩ | ⟨-, hstar, haddress⟩
    · have hstar : target = "*" ↔ c = '*' := by simp [← String.toList_inj, hc]
      rw [Uri.path_of_ofChar (by simpa [hc] using hslash) hchar, hc]
      simp only [hstar]
    · exact absurd hpath hslash
    · rw [if_neg hstar]
      exact Uri.path_of_ofAddress haddress

/-! ## What changes no path -/

/-- A query and a fragment behind a path leave it as it is. -/
theorem rawPath_append {path tail : String} (hpath : rawPath path = path)
    (htail : rawPath tail = "") : rawPath (path ++ tail) = path := by
  have hhere : ∀ c ∈ path.toList, (!(c = '?' || c = '#')) = true := by
    have hself : path.toList.takeWhile (fun c => !(c = '?' || c = '#')) = path.toList := by
      simpa [rawPath] using congrArg String.toList hpath
    exact List.takeWhile_eq_self_iff.mp hself
  have hthere : tail.toList.takeWhile (fun c => !(c = '?' || c = '#')) = [] := by
    simpa [rawPath] using congrArg String.toList htail
  rw [rawPath, String.toList_append, List.takeWhile_append_of_pos hhere, hthere, List.append_nil,
    String.ofList_toList]

theorem behindScheme?_append {scheme : List Char} (h : ∀ c ∈ scheme, Uri.isSchemeChar c = true)
    (rest : List Char) : behindScheme? (scheme ++ ':' :: '/' :: '/' :: rest) = some rest := by
  rw [behindScheme?, List.dropWhile_append_of_pos h]
  rfl

theorem behindAuthority_append {authority rest : List Char}
    (h : ∀ c ∈ authority, endsAuthority c = false)
    (hrest : ∀ c ∈ rest.head?, endsAuthority c = true) :
    behindAuthority (authority ++ rest) = rest := by
  have hhere : ∀ c ∈ authority, (!endsAuthority c) = true := by simpa using h
  rw [behindAuthority, List.dropWhile_append_of_pos hhere]
  cases rest with
  | nil => rfl
  | cons c rest =>
    have hends : endsAuthority c = true := hrest c rfl
    exact List.dropWhile_cons_of_neg (by simp [hends])

section Address
variable {scheme authority target : String}
  (hscheme : ∀ c ∈ scheme.toList, Uri.isSchemeChar c = true)
  (hauthority : ∀ c ∈ authority.toList, endsAuthority c = false)
include hscheme hauthority

/-- Behind a scheme and an authority stands the path, or nothing for the root. -/
theorem targetPath_of_scheme (hends : ∀ c ∈ target.toList.head?, endsAuthority c = true) :
    targetPath (scheme ++ "://" ++ authority ++ target) =
      if rawPath target = "" then "/" else rawPath target := by
  have htext : (scheme ++ "://" ++ authority ++ target).toList =
      scheme.toList ++ ':' :: '/' :: '/' :: (authority.toList ++ target.toList) := by
    simp [String.toList_append]
  have hhead : (scheme.toList ++ ':' :: '/' :: '/' :: (authority.toList ++ target.toList)).head? ≠
      some '/' := by
    cases hcs : scheme.toList with
    | nil => simp
    | cons c cs =>
      have hc : Uri.isSchemeChar c = true := hscheme c (by simp [hcs])
      simp only [List.cons_append, List.head?_cons, ne_eq, Option.some.injEq]
      rintro rfl
      cases hc
  have hstar : scheme ++ "://" ++ authority ++ target ≠ "*" := by
    rw [ne_eq, ← String.toList_inj, htext]
    intro hsame
    have hlength := congrArg List.length hsame
    simp at hlength
    omega
  rw [targetPath, if_neg (htext ▸ hhead), if_neg hstar, addressPath, htext,
    behindScheme?_append hscheme]
  simp only [behindAuthority_append hauthority hends, String.ofList_toList]

/-- A scheme and an authority in front of a path leave it as it is. -/
theorem targetPath_of_address (hslash : target.toList.head? = some '/') :
    targetPath (scheme ++ "://" ++ authority ++ target) = rawPath target := by
  have hends : ∀ c ∈ target.toList.head?, endsAuthority c = true := by
    intro c hc
    rw [hslash] at hc
    obtain rfl := Option.some.inj hc
    rfl
  have hpath : rawPath target ≠ "" := by
    obtain ⟨others, htarget⟩ := List.head?_eq_some_iff.mp hslash
    simp [rawPath, htarget]
  rw [targetPath_of_scheme hscheme hauthority hends, if_neg hpath]

end Address

/-! ## Requests -/

/-- A method that is read has the text that it is read from. -/
theorem Method.name_of_ofName? {text : String} {method : Method}
    (h : Method.ofName? text = some method) : method.name = text := by
  unfold Method.ofName? at h
  split_ifs at h
  all_goals
    obtain rfl := Option.some.inj h
    first | rfl | exact Eq.symm ‹_›

/-- What a request is made of. -/
theorem Request.of_make {method target body : String} {headers : Headers} {request : Request}
    (hmake : Request.make method target headers body = .ok request) :
    Method.ofName? method = some request.method ∧ Uri.read target = .ok request.uri := by
  unfold Request.make at hmake
  split at hmake
  · cases hmake
  next m hmethod =>
    split at hmake
    · cases hmake
    next uri hread =>
      split at hmake
      · cases hmake
      · have hrequest := Except.ok.inj hmake
        rw [← hrequest]
        exact ⟨hmethod, hread⟩

/-- The path of a request is the raw path of the target that it was made with. -/
theorem Request.path_of_make {method target body : String} {headers : Headers} {request : Request}
    (hslash : target.toList.head? = some '/')
    (hmake : Request.make method target headers body = .ok request) :
    request.uri.path = rawPath target :=
  Uri.path_of_read hslash (Request.of_make hmake).2

end SignalStub.Http
