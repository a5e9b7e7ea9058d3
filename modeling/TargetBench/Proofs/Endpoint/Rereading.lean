import TargetBench.Endpoint.Basic
import TargetBench.Proofs.Endpoint.Segment
import TargetBench.Proofs.Text.Trim

/-!
# Reading endpoints again

An endpoint is written as a locator, whatever it was read from. The locator is read as locators are:
a relative path loses its first name, which stands where a locator has its host, and dots and
characters of a bare path are taken for what they mean in a locator. So an endpoint is read again
as itself if its path is plain, and only then. What a reading of the locator gives is plain, so
that nothing changes any more from then on.

## Main definitions

* `Url.tail`: what counts of the characters at the end of a locator

## Main results

* `SocketEndpoint.parse_cases`: what a text is read as
* `SocketEndpoint.path_ne_empty_of_parse`: no text is read as an endpoint at the empty path
* `SocketEndpoint.parse_text`: how the locator of an endpoint is read
* `SocketEndpoint.parse_text_of_plain`: an endpoint at a plain path is read again as itself
* `SocketEndpoint.plain_of_parse_text`: what is read again is at a plain path
* `SocketEndpoint.parse_text_iff`: which endpoints are read again as themselves
-/

namespace TargetBench

namespace Url

variable {c : Char} {cs : List Char}

/-! ## Blanks -/

/-- What counts of the characters at the end of a locator: blanks at the end do not, and line ends
do not count anywhere. -/
def tail (cs : List Char) : List Char :=
  ((cs.rdropWhile Text.isBlank).rdropWhile isOuter).filter isInner

theorem isEscapedInPath_of_isOuter (h : isOuter c = true) : isEscapedInPath c = true := by
  rw [isOuter, decide_eq_true_eq] at h
  rcases Nat.lt_or_eq_of_le h with h | h
  · simp [isEscapedInPath, h]
  · obtain rfl : c = ' ' := Char.toNat_inj.mp h
    decide

theorem isEscapedInPath_of_isBlank (h : Text.isBlank c = true) : isEscapedInPath c = true := by
  by_cases hc : c.toNat ≤ 0x20
  · exact isEscapedInPath_of_isOuter (by simpa [isOuter] using hc)
  · have : 0x7F ≤ c.toNat := by
      simp [Text.isBlank, Text.blankRanges] at h
      omega
    simp [isEscapedInPath, this]

theorem isEscapedInPath_of_not_isInner (h : isInner c = false) : isEscapedInPath c = true := by
  simp only [isInner, Bool.not_eq_false', Bool.or_eq_true, decide_eq_true_eq] at h
  rcases h with (rfl | rfl) | rfl <;> decide

/-- All characters count if none of them needs an escape. -/
theorem tail_of_not_escaped (h : ∀ c ∈ cs, isEscapedInPath c = false) : tail cs = cs := by
  have hkept {p : Char → Bool} (hp : ∀ c, p c = true → isEscapedInPath c = true) :
      cs.rdropWhile p = cs :=
    List.rdropWhile_eq_self_iff.mpr fun hne hlast =>
      Bool.false_ne_true ((h _ (List.getLast_mem hne)).symm.trans (hp _ hlast))
  rw [tail, hkept fun _ => isEscapedInPath_of_isBlank, hkept fun _ => isEscapedInPath_of_isOuter,
    List.filter_eq_self]
  intro c hc
  by_contra hinner
  have := isEscapedInPath_of_not_isInner (Bool.eq_false_iff.mpr hinner)
  exact Bool.false_ne_true ((h c hc).symm.trans this)

/-! ## Paths -/

theorem afterAuthority?_rooted (cs : List Char) :
    afterAuthority? .general ('/' :: cs) = some ('/' :: cs) := rfl

/-- A plain path after an empty host is read as itself. -/
theorem pathAfterHost_of_plain {path : String} (h : Plain path) :
    pathAfterHost path.toList = path := by
  obtain ⟨cs, hcs⟩ := List.head?_eq_some_iff.mp (by simpa [Path.isAbsolute] using h.rooted)
  have hwhole : beforeQuery path.toList = '/' :: cs := by
    rw [beforeQuery, ← hcs, List.takeWhile_eq_self_iff]
    intro c hc
    have := h.unescaped c hc
    by_contra hmark
    have : c = '?' ∨ c = '#' := by simpa [← or_iff_not_imp_left] using hmark
    rcases this with rfl | rfl <;> exact absurd (h.unescaped _ hc) (by decide)
  rw [pathAfterHost, hwhole]
  exact segmentedPath_of_plain h hcs

/-- After a host, the path is missing or made of segments. -/
theorem pathAfterHost_cases (cs : List Char) :
    pathAfterHost cs = "" ∨ ∃ rest, pathAfterHost cs = segmentedPath rest := by
  unfold pathAfterHost
  split
  · exact .inl rfl
  · exact .inr ⟨_, rfl⟩
  · exact .inr ⟨_, rfl⟩

/-- Without a host, the path is made of segments or does not begin at the root. -/
theorem pathWithoutHost_cases (cs : List Char) :
    Path.isAbsolute (pathWithoutHost cs) = false ∨
      ∃ rest, pathWithoutHost cs = segmentedPath rest := by
  unfold pathWithoutHost
  split
  · exact .inr ⟨_, rfl⟩
  · next rest hrest =>
    refine .inl (Bool.eq_false_iff.mpr fun habs => ?_)
    obtain ⟨after, hafter⟩ := List.head?_eq_some_iff.mp (by simpa [Path.isAbsolute] using habs)
    obtain ⟨front, hfront, -⟩ := Percent.exists_of_encode_eq_cons (by decide) hafter
    exact hrest front hfront

theorem plain_pathAfterHost (hne : pathAfterHost cs ≠ "") (hroot : pathAfterHost cs ≠ "/") :
    Plain (pathAfterHost cs) := by
  obtain ⟨rest, hrest⟩ := (pathAfterHost_cases cs).resolve_left hne
  rw [hrest] at hroot ⊢
  exact plain_segmentedPath hroot

/-- The path of a locator of a general scheme is plain if it begins at the root and goes on. -/
theorem plain_of_path? {path : String} (h : path? .general cs = some path)
    (habs : Path.isAbsolute path = true) (hroot : path ≠ "/") : Plain path := by
  have hsegments : ∃ rest, path = segmentedPath rest := by
    simp only [path?] at h
    split at h
    · obtain ⟨rest, -, rfl⟩ := Option.map_eq_some_iff.mp h
      refine (pathAfterHost_cases rest).resolve_left fun hempty => ?_
      rw [hempty] at habs
      exact absurd habs (by decide)
    · cases h
      exact (pathWithoutHost_cases _).resolve_left fun hrelative =>
        Bool.false_ne_true (hrelative.symm.trans habs)
  obtain ⟨rest, rfl⟩ := hsegments
  exact plain_segmentedPath hroot

theorem exists_path?_of_ofText? {s : String} {url : Url} (h : ofText? s = some url) :
    ∃ rest, path? (.ofScheme url.scheme) rest = some url.path := by
  rw [ofText?] at h
  obtain ⟨⟨scheme, rest⟩, -, h⟩ := Option.bind_eq_some_iff.mp h
  obtain ⟨path, hpath, h⟩ := Option.bind_eq_some_iff.mp h
  cases h
  exact ⟨rest, hpath⟩

end Url

namespace SocketEndpoint

open Url (Plain)

variable {s : String} {e e' : SocketEndpoint}

/-! ## Locators of endpoints -/

theorem trim_text (e : SocketEndpoint) :
    Text.trim e.text = scheme ++ mark ++ String.ofList (e.path.toList.rdropWhile Text.isBlank) := by
  have hfirst : Text.isBlank 'u' = false := by decide
  have hslash : Text.isBlank '/' = false := by decide
  have htext : e.text.toList = 'u' :: "nix:/".toList ++ '/' :: e.path.toList := by
    rw [text, String.toList_append]
    rfl
  rw [Text.trim, htext, Text.trimChars_append_cons hfirst hslash, ← String.toList_inj]
  simp [scheme, mark]

/-- What is behind the mark of such a locator is read as an authority and a path. -/
theorem ofText?_locator (cs : List Char) :
    Url.ofText? (scheme ++ mark ++ String.ofList (cs.rdropWhile Text.isBlank)) =
      (Url.afterAuthority? .general (Url.tail cs)).map fun rest =>
        ⟨scheme, Url.pathAfterHost rest⟩ := by
  have houter : Url.isOuter '/' = false := by decide
  -- all that does not count stands behind the second slash
  have hkept :
      (("unix:/".toList ++ '/' :: cs.rdropWhile Text.isBlank).rdropWhile Url.isOuter).filter
        Url.isInner = "unix://".toList ++ Url.tail cs := by
    rw [Text.rdropWhile_append_cons houter, List.filter_append]
    rfl
  have hsplit : Url.splitScheme? ("unix://".toList ++ Url.tail cs) =
      some (scheme, '/' :: '/' :: Url.tail cs) := rfl
  have hofText : Url.ofText? (scheme ++ mark ++ String.ofList (cs.rdropWhile Text.isBlank)) =
      (Url.splitScheme? ("unix://".toList ++ Url.tail cs)).bind fun parts =>
        (Url.path? (.ofScheme parts.1) parts.2).bind fun path => some ⟨parts.1, path⟩ := by
    rw [← hkept, Url.ofText?, String.toList_append, String.toList_ofList]
    rfl
  have hpath : Url.path? (.ofScheme scheme) ('/' :: '/' :: Url.tail cs) =
      (Url.afterAuthority? .general (Url.tail cs)).map Url.pathAfterHost := by
    have hkind : Url.SchemeKind.ofScheme scheme = .general := by decide
    rw [hkind, Url.path?]
  rw [hofText, hsplit, Option.bind_some]
  simp only [hpath]
  cases Url.afterAuthority? .general (Url.tail cs) <;> rfl

/-- How the locator of an endpoint is read. -/
theorem parse_text (e : SocketEndpoint) :
    parse e.text = match Url.afterAuthority? .general (Url.tail e.path.toList) with
      | none => .error .malformed
      | some rest => ofUrl e.text ⟨scheme, Url.pathAfterHost rest⟩ := by
  have hmark (cs : List Char) : Text.cut? mark (scheme ++ mark ++ String.ofList cs) =
      some (scheme, String.ofList cs) := by
    rw [Text.cut?, String.toList_append, String.toList_ofList]
    rfl
  rw [parse, trim_text]
  simp only [hmark, ofText?_locator]
  rw [if_neg, if_neg]
  · cases Url.afterAuthority? .general (Url.tail e.path.toList) <;> rfl
  · simp
  · simp [scheme]

theorem ofUrl_eq_ok_iff {given : String} {url : Url} :
    ofUrl given url = .ok e ↔
      url.scheme = scheme ∧ url.path ≠ "" ∧ url.path ≠ "/" ∧ ⟨url.path⟩ = e := by
  rw [ofUrl]
  by_cases hscheme : url.scheme = scheme
  · rw [if_neg (not_not_intro hscheme)]
    by_cases hpath : url.path = "" ∨ url.path = "/"
    · rw [if_pos hpath]
      exact iff_of_false (fun h => by cases h) fun ⟨_, hne, hroot, _⟩ => hpath.elim hne hroot
    · rw [if_neg hpath, Except.ok.injEq]
      exact ⟨fun h => ⟨hscheme, not_or.mp hpath |>.1, not_or.mp hpath |>.2, h⟩, fun h => h.2.2.2⟩
  · rw [if_pos hscheme]
    exact iff_of_false (fun h => by cases h) fun h => hscheme h.1

/-! ## What is read -/

/-- An endpoint is a bare path without the blanks around it, or the path of a locator. -/
theorem parse_cases (h : parse s = .ok e) :
    Text.cut? mark (Text.trim s) = none ∧ Text.trim s ≠ "" ∧ ⟨Text.trim s⟩ = e ∨
      ∃ url, Url.ofText? (Text.trim s) = some url ∧ url.scheme = scheme ∧ url.path ≠ "" ∧
        url.path ≠ "/" ∧ ⟨url.path⟩ = e := by
  simp only [parse] at h
  split_ifs at h with hempty hbare
  · exact .inl ⟨Option.isNone_iff_eq_none.mp hbare, fun hnone => hempty (by simp [hnone]),
      Except.ok.inj h⟩
  · cases hurl : Url.ofText? (Text.trim s) with
    | none =>
      rw [hurl] at h
      cases h
    | some url =>
      rw [hurl] at h
      exact .inr ⟨url, rfl, ofUrl_eq_ok_iff.mp h⟩

/-- **No text is read as an endpoint at the empty path.** -/
theorem path_ne_empty_of_parse (h : parse s = .ok e) : e.path ≠ "" := by
  obtain ⟨-, hne, rfl⟩ | ⟨url, -, -, hne, -, rfl⟩ := parse_cases h
  · exact hne
  · exact hne

/-! ## Reading again -/

/-- **An endpoint at a plain path is read again as itself.** -/
theorem parse_text_of_plain (h : Plain e.path) : parse e.text = .ok e := by
  obtain ⟨cs, hcs⟩ := List.head?_eq_some_iff.mp (by simpa [Path.isAbsolute] using h.rooted)
  have hempty : e.path ≠ "" := by
    intro hempty
    rw [hempty] at hcs
    cases hcs
  have hrest : Url.afterAuthority? .general (Url.tail e.path.toList) = some e.path.toList := by
    rw [Url.tail_of_not_escaped h.unescaped, hcs]
    exact Url.afterAuthority?_rooted cs
  have hpath : Url.pathAfterHost e.path.toList = e.path := Url.pathAfterHost_of_plain h
  rw [parse_text, hrest]
  simp only [hpath]
  exact ofUrl_eq_ok_iff.mpr ⟨rfl, hempty, h.named, rfl⟩

/-- **What the locator of an endpoint is read as is at a plain path.** -/
theorem plain_of_parse_text (h : parse e.text = .ok e') : Plain e'.path := by
  rw [parse_text] at h
  cases hrest : Url.afterAuthority? .general (Url.tail e.path.toList) with
  | none =>
    rw [hrest] at h
    cases h
  | some rest =>
    rw [hrest] at h
    obtain ⟨-, hne, hroot, rfl⟩ := ofUrl_eq_ok_iff.mp h
    exact Url.plain_pathAfterHost hne hroot

/-- A locator whose path begins at the root names a plain path. -/
theorem plain_of_parse_locator (h : parse s = .ok e)
    (hmark : (Text.cut? mark (Text.trim s)).isSome) (habs : Path.isAbsolute e.path = true) :
    Plain e.path := by
  obtain ⟨hbare, -, -⟩ | ⟨url, hurl, hscheme, -, hroot, rfl⟩ := parse_cases h
  · rw [hbare] at hmark
    cases hmark
  · obtain ⟨rest, hpath⟩ := Url.exists_path?_of_ofText? hurl
    rw [hscheme] at hpath
    exact Url.plain_of_path? hpath habs hroot

/-- An endpoint that was read from a text is read again as itself if and only if its path is plain.
It is if the text was a locator and the path begins at the root. Whatever the locator of an endpoint
is read as, is read again as itself.

An endpoint is itself here if its path is the same text. Programs compare the paths of endpoints by
their components, and to them some paths that are not plain come back as equal ones: `/a/./b` comes
back as `/a/b`, which has the same components. -/
theorem parse_text_iff (h : parse s = .ok e) :
    (parse e.text = .ok e ↔ Plain e.path) ∧
      ((Text.cut? mark (Text.trim s)).isSome → Path.isAbsolute e.path = true → Plain e.path) ∧
      ∀ e', parse e.text = .ok e' → parse e'.text = .ok e' :=
  ⟨⟨plain_of_parse_text, parse_text_of_plain⟩, plain_of_parse_locator h,
    fun _ he' => parse_text_of_plain (plain_of_parse_text he')⟩

/-- A relative path is read again as another one. -/
theorem parse_text_relative :
    parse "run/halprobed.sock" = .ok ⟨"run/halprobed.sock"⟩ ∧
      parse (text ⟨"run/halprobed.sock"⟩) = .ok ⟨"/halprobed.sock"⟩ ∧
      parse (text ⟨"run/halprobed.sock"⟩) ≠ .ok ⟨"run/halprobed.sock"⟩ := by
  have hread : parse "run/halprobed.sock" = .ok ⟨"run/halprobed.sock"⟩ := by decide +kernel
  refine ⟨hread, by decide +kernel, fun hagain => ?_⟩
  have hplain := (parse_text_iff hread).1.mp hagain
  exact absurd hplain.rooted (by decide)

end SocketEndpoint

end TargetBench
