import TargetBench.Proofs.FileSystem.Component
import TargetBench.Proofs.Json.Lexing
import TargetBench.Proofs.Number.Distinct
import TargetBench.Proofs.Specification.Match

/-!
# Where specifications are looked for

The directory in which the specification of a service is looked for is reached from the directory of
all specifications through the parts of the package and the version. This holds unless a part of the
package begins with a slash: such a part takes the place of everything before it, and the search
leaves the directory of all specifications.

## Main results

* `Binary.isRunChar_of_mem_text`: the characters of the text of a version
* `Binary.text_spec`: the text of a version is one name
* `ComponentQuery.directory_of_relative`, `ComponentQuery.directory_of_absolute`: where a package
  leads to
* `ComponentQuery.directory_inside_iff`: which packages stay inside
-/

namespace TargetBench

/-! ## Versions as names -/

namespace Numeral

/-- A numeral begins with a digit or a minus sign. -/
theorem exists_chars_cons (plus : Bool) (n : Numeral) :
    ∃ c cs, n.chars plus = c :: cs ∧ c ≠ '.' := by
  obtain ⟨d, ds, hd⟩ := exists_chars_eq_cons n.whole
  rw [chars, hd]
  cases n.negative with
  | true => exact ⟨'-', _, rfl, by decide⟩
  | false => exact ⟨d.char, _, rfl, char_ne d rfl⟩

end Numeral

/-- The text of a finite number is that of a numeral. -/
theorem Binary.exists_text_finite (negative : Bool) (place : Fin BinaryFormat.single.finiteCount) :
    ∃ n : Numeral, (text (.finite negative place : Binary32)).toList = n.chars false := by
  obtain ⟨n, hn, -⟩ := Layout.plain.exists_numeral? BinaryFormat.moderate_single negative place
  refine ⟨n, ?_⟩
  rw [text, hn, String.toList_ofList]
  all_goals simp

/-- The text of a number is written in the characters of words and numbers. -/
theorem Binary.isRunChar_of_mem_text {x : Binary32} {c : Char} (h : c ∈ x.text.toList) :
    Json.isRunChar c = true := by
  cases x with
  | nan =>
    have hword : "NaN".toList.all Json.isRunChar = true := rfl
    exact List.all_eq_true.mp hword c h
  | infinite negative =>
    have hwords : ("-inf".toList ++ "inf".toList).all Json.isRunChar = true := rfl
    cases negative with
    | true => exact List.all_eq_true.mp hwords c (List.mem_append_left _ h)
    | false => exact List.all_eq_true.mp hwords c (List.mem_append_right _ h)
  | finite negative place =>
    obtain ⟨n, hn⟩ := exists_text_finite negative place
    rw [hn] at h
    exact Json.Lexer.isRunChar_of_mem_chars h

/-- The text of a number is not empty, begins with no point and holds no slash. -/
theorem Binary.text_spec (x : Binary32) :
    '/' ∉ x.text.toList ∧ ∃ c cs, x.text.toList = c :: cs ∧ c ≠ '.' := by
  constructor
  · intro hslash
    exact absurd (isRunChar_of_mem_text hslash) (by decide)
  · cases x with
    | nan => exact ⟨'N', _, rfl, by decide⟩
    | infinite negative =>
      cases negative with
      | true => exact ⟨'-', _, rfl, by decide⟩
      | false => exact ⟨'i', _, rfl, by decide⟩
    | finite negative place =>
      obtain ⟨n, hn⟩ := exists_text_finite negative place
      rw [hn]
      exact n.exists_chars_cons false

namespace Path

/-- What begins with no point can continue a path, as long as it does not begin at the root. -/
theorem continues_of_first {part : String} (habsolute : isAbsolute part = false)
    (hpoint : ∀ cs, part.toList ≠ '.' :: cs) : Continues part := by
  refine ⟨habsolute, fun h => ?_⟩
  rw [pieces, Text.pieces, List.head?_map, Option.map_eq_some_iff] at h
  obtain ⟨first, hfirst, hdot⟩ := h
  have hdot' : first = ['.'] := by
    rw [← String.toList_ofList (l := first), hdot]
    rfl
  subst hdot'
  cases hpart : part.toList with
  | nil =>
    rw [hpart] at hfirst
    cases hfirst
  | cons c cs =>
    -- the first piece begins as the text does, unless that begins with a slash
    rw [hpart, Text.piecesOf] at hfirst
    split at hfirst
    · cases hfirst
    · obtain ⟨p, ps, hp⟩ := List.exists_cons_of_ne_nil (Text.piecesOf_ne_nil '/' cs)
      rw [hp, List.head?_cons, Option.some.injEq, List.cons.injEq] at hfirst
      exact hpoint cs (by rw [hpart, hfirst.1])

theorem continues_text (x : Binary32) : Continues x.text := by
  obtain ⟨hslash, c, cs, hc, hpoint⟩ := x.text_spec
  refine continues_of_first ?_ ?_
  · rw [isAbsolute, hc, List.head?_cons, beq_eq_false_iff_ne, ne_eq, Option.some.injEq]
    rintro rfl
    exact hslash (hc ▸ List.mem_cons_self)
  · intro cs' h
    rw [hc, List.cons.injEq] at h
    exact hpoint h.1

/-- The text of a version is one name. -/
theorem names_text (x : Binary32) : names x.text = [x.text] := by
  obtain ⟨hslash, c, cs, hc, hpoint⟩ := x.text_spec
  have hidle : isIdle x.text = false := by
    rw [isIdle, Bool.or_eq_false_iff, decide_eq_false_iff_not]
    constructor
    · rw [← Bool.not_eq_true, String.isEmpty_iff]
      intro h
      rw [h] at hc
      cases hc
    · intro h
      rw [h] at hc
      exact hpoint (List.cons.inj hc).1.symm
  rw [names, pieces, Text.pieces_of_not_mem hslash, List.filter_cons, hidle]
  rfl

/-- A part of a text between points holds no point. -/
theorem point_not_mem_of_mem_pieces {package part : String}
    (h : part ∈ Text.pieces '.' package) : '.' ∉ part.toList :=
  Text.not_mem_of_mem_piecesOf (Text.mem_pieces_iff.mp h)

theorem continues_of_mem_pieces {package part : String} (h : part ∈ Text.pieces '.' package)
    (habsolute : isAbsolute part = false) : Continues part := by
  refine continues_of_first habsolute fun cs hcs => point_not_mem_of_mem_pieces h ?_
  rw [hcs]
  exact List.mem_cons_self

/-- No name in a part of a text between points leads upwards. -/
theorem up_not_mem_names {package part : String} (h : part ∈ Text.pieces '.' package) :
    ".." ∉ names part := by
  intro hup
  have hmem := Text.mem_pieces_iff.mp (List.mem_filter.mp hup).1
  exact point_not_mem_of_mem_pieces h (Text.mem_of_mem_piecesOf hmem (by decide))

end Path

/-! ## The directory of a package -/

namespace ComponentQuery

/-- The parts of the package that the module name of a request names. -/
def packageParts (r : LoadRequest) : List String :=
  Text.pieces '.' (Text.trim (packagePart r.moduleName))

/-- Where the specification of a service is looked for. -/
theorem directory_of_service {r : LoadRequest} {q : ComponentQuery} (hq : ofRequest r = .ok q)
    (hs : q.componentClass = .service) (all : String) :
    q.directory all = Path.push ((packageParts r).foldl Path.push all) r.version.text := by
  rw [ofRequest] at hq
  cases hc : ComponentClass.ofId? r.componentClass with
  | none =>
    rw [hc] at hq
    cases hq
  | some c =>
    simp only [hc] at hq
    split at hq
    · split at hq
      · cases hq
      · cases hq
        rw [directory, packageParts, fst_splitModuleName]
    · rename_i hservice
      cases hq
      exact absurd (decide_eq_true hs) hservice

variable {r : LoadRequest} {q : ComponentQuery}

/-- If no part of the package begins with a slash, the names in its parts and the version lead to
the directory from the directory of all specifications, and never upwards. -/
theorem directory_of_relative (hq : ofRequest r = .ok q) (hs : q.componentClass = .service)
    (h : ∀ part ∈ packageParts r, Path.isAbsolute part = false) (all : String) :
    Path.components (q.directory all) = Path.components all ++
        ((packageParts r).flatMap Path.names ++ [r.version.text]) ∧
      ".." ∉ (packageParts r).flatMap Path.names ++ [r.version.text] := by
  constructor
  · have hparts : ∀ part ∈ packageParts r, Path.Continues part :=
      fun part hpart => Path.continues_of_mem_pieces hpart (h part hpart)
    rw [directory_of_service hq hs, Path.components_push _ (Path.continues_text r.version),
      Path.components_foldl_push hparts, Path.names_text, List.append_assoc]
  · intro hup
    rcases List.mem_append.mp hup with hup | hup
    · obtain ⟨part, hpart, hmem⟩ := List.mem_flatMap.mp hup
      exact Path.up_not_mem_names hpart hmem
    · obtain ⟨-, c, cs, hc, hpoint⟩ := r.version.text_spec
      rw [← List.mem_singleton.mp hup] at hc
      exact hpoint (List.cons.inj hc).1.symm

/-- If a part of the package begins with a slash, the directory is the same whatever the directory
of all specifications is. -/
theorem directory_of_absolute (hq : ofRequest r = .ok q) (hs : q.componentClass = .service)
    (h : ∃ part ∈ packageParts r, Path.isAbsolute part = true) (all all' : String) :
    q.directory all = q.directory all' := by
  rw [directory_of_service hq hs, directory_of_service hq hs,
    Path.foldl_push_eq_of_absolute h all all']

/-- **Which packages are looked for inside the directory of all specifications**: exactly those none
of whose parts begins with a slash. Then the names in the parts and the version lead there, and
never upwards; otherwise the directory of all specifications has no influence on where it is. -/
theorem directory_inside_iff (hq : ofRequest r = .ok q) (hs : q.componentClass = .service) :
    ((∀ all, Path.components all <+: Path.components (q.directory all)) ↔
        ∀ part ∈ packageParts r, Path.isAbsolute part = false) ∧
      ((∀ part ∈ packageParts r, Path.isAbsolute part = false) → ∀ all,
        Path.components (q.directory all) = Path.components all ++
            ((packageParts r).flatMap Path.names ++ [r.version.text]) ∧
          ".." ∉ (packageParts r).flatMap Path.names ++ [r.version.text]) ∧
      ((∃ part ∈ packageParts r, Path.isAbsolute part = true) → ∀ all all',
        q.directory all = q.directory all') := by
  refine ⟨⟨fun hinside part hpart => ?_, fun h all => ?_⟩, directory_of_relative hq hs,
    directory_of_absolute hq hs⟩
  · -- one place cannot lie inside two directories of different names
    by_contra habsolute
    have hsame := directory_of_absolute hq hs ⟨part, hpart, by simpa using habsolute⟩ "a" "b"
    have ha := hinside "a"
    have hb := hinside "b"
    rw [hsame] at ha
    have hdiffer : ¬ Path.components "a" <+: Path.components "b" ∧
        (Path.components "a").length = (Path.components "b").length := by decide
    exact hdiffer.1 (List.prefix_of_prefix_length_le ha hb hdiffer.2.le)
  · rw [(directory_of_relative hq hs h all).1]
    exact List.prefix_append _ _

/-- A package that begins with a slash is looked for outside. -/
theorem directory_inside_iff_slash :
    let r : LoadRequest := ⟨"", ComponentClass.service.id, Signed.zero 32, .ofInt 1,
      "/loopback.nfc::INfc"⟩
    let q := asked .service r
    ofRequest r = .ok q ∧ q.componentClass = .service ∧
      ¬ ∀ all, Path.components all <+: Path.components (q.directory all) := by
  intro r q
  have hpart : packagePart r.moduleName = "/loopback.nfc" := by cbv
  have hq : ofRequest r = .ok q := by
    refine ofRequest_of_known rfl fun _ hblank => ?_
    rw [hpart] at hblank
    exact absurd (hblank '/' (by decide)) (by decide)
  have hparts : packageParts r = ["/loopback", "nfc"] := by cbv
  refine ⟨hq, asked_componentClass .service r, ?_⟩
  rw [(directory_inside_iff hq (asked_componentClass .service r)).1, hparts]
  decide

end ComponentQuery

end TargetBench
