import Mathlib.Data.List.Dedup
import Mathlib.Data.List.Induction
import Mathlib.Data.List.Perm.Basic

/-!
# Lists with keys

Where no key occurs twice, what stands under a key does not depend on the order of the list. A list
whose elements are put in one by one, each in place of the one with its key, holds every key once,
at the place where it was put in last.

## Main definitions

* `put`: a list with an element in place of the one with its key

## Main results

* `lookup_eq_some_iff_mem`: what stands under a key is what the list holds with the key
* `lookup_perm`: the order of the list does not matter
* `map_foldl_put`: the keys of elements that are put in one by one
* `find?_foldl_put`: what was put in last under a key is what is found under it
-/

namespace TargetBench

section Distinct

variable {κ α : Type} [BEq κ] [LawfulBEq κ]

/-- What stands under a key is what the list holds with the key. -/
theorem lookup_eq_some_iff_mem {l : List (κ × α)} (h : (l.map Prod.fst).Nodup) {k : κ} {x : α} :
    l.lookup k = some x ↔ (k, x) ∈ l := by
  induction l with
  | nil => simp
  | cons m l ih =>
    obtain ⟨k', y⟩ := m
    obtain ⟨hnew, hrest⟩ := List.nodup_cons.mp h
    by_cases hk : k = k'
    · subst hk
      -- the key stands in front, so it does not occur again
      have hnone : (k, x) ∉ l := fun hmem => hnew (List.mem_map.mpr ⟨_, hmem, rfl⟩)
      simp [hnone, eq_comm]
    · simp [List.lookup_cons, beq_false_of_ne hk, ih hrest, hk]

/-- What stands under a key does not depend on the order of the list. -/
theorem lookup_perm {l l' : List (κ × α)} (hperm : l.Perm l') (h : (l.map Prod.fst).Nodup)
    (k : κ) : l.lookup k = l'.lookup k := by
  have h' : (l'.map Prod.fst).Nodup := (hperm.map Prod.fst).nodup_iff.mp h
  ext x
  rw [lookup_eq_some_iff_mem h, lookup_eq_some_iff_mem h', hperm.mem_iff]

/-- Among the keys that are kept, everything stands as before. -/
theorem lookup_filter (l : List (κ × α)) (p : κ → Bool) (k : κ) :
    (l.filter fun e => p e.1).lookup k = if p k then l.lookup k else none := by
  induction l with
  | nil => simp
  | cons m l ih =>
    obtain ⟨k', x⟩ := m
    by_cases hk : k = k'
    · subst hk
      by_cases hp : p k = true
      · simp [hp]
      · simpa [hp] using ih
    · have hskip : ((k', x) :: l).lookup k = l.lookup k := by
        rw [List.lookup_cons, beq_false_of_ne hk]
      rw [hskip, List.filter_cons]
      split
      · rw [List.lookup_cons, beq_false_of_ne hk, ih]
      · exact ih

/-- Without what stands under a key, everything else stands as before. -/
theorem lookup_filter_ne [DecidableEq κ] (l : List (κ × α)) (k k' : κ) :
    (l.filter fun e => e.1 ≠ k).lookup k' = if k' = k then none else l.lookup k' := by
  have hfilter := lookup_filter l (fun key => decide (key ≠ k)) k'
  by_cases hk : k' = k <;> simpa [hk] using hfilter

end Distinct

section Find

variable {κ α : Type} [DecidableEq κ]

/-- What is found under a key shows that the key occurs. -/
theorem mem_map_of_find? {key : α → κ} {xs : List α} {k : κ} {x : α}
    (h : xs.find? (key · = k) = some x) : k ∈ xs.map key := by
  have hkey := List.find?_some h
  exact List.mem_map.mpr ⟨x, List.mem_of_find?_eq_some h, of_decide_eq_true hkey⟩

/-- A list with an element behind the others, and without those of its key. -/
def put (key : α → κ) (xs : List α) (x : α) : List α :=
  xs.filter (fun y => key y ≠ key x) ++ [x]

/-- One more occurrence takes the place of the last one. -/
theorem dedup_concat (ks : List κ) (k : κ) : (ks ++ [k]).dedup = put id ks.dedup k := by
  induction ks with
  | nil => rfl
  | cons k' ks ih =>
    by_cases hin : k' ∈ ks
    · rw [List.cons_append, List.dedup_cons_of_mem hin,
        List.dedup_cons_of_mem (List.mem_append_left [k] hin), ih]
    · rw [List.cons_append, List.dedup_cons_of_notMem hin]
      by_cases hk : k' = k
      · subst hk
        rw [List.dedup_cons_of_mem (List.mem_append_right ks List.mem_cons_self), ih]
        simp [put]
      · rw [List.dedup_cons_of_notMem (by simp [hin, hk]), ih]
        simp [put, hk]

variable {key : α → κ} {xs : List α} {x : α}

/-- A map that keeps the keys may as well be applied before. -/
theorem map_put {β : Type} {f : α → β} {key' : β → κ} (h : ∀ y, key' (f y) = key y) :
    (put key xs x).map f = put key' (xs.map f) (f x) := by
  simp only [put, List.map_append, List.filter_map, Function.comp_def, h, List.map_singleton]

theorem map_key_put : (put key xs x).map key = put id (xs.map key) (key x) :=
  map_put fun _ => rfl

theorem find?_put (k : κ) :
    (put key xs x).find? (key · = k) = if key x = k then some x else xs.find? (key · = k) := by
  rw [put, List.find?_append, List.find?_filter]
  by_cases hk : key x = k
  · -- none of the others has the key
    have hothers : xs.find? (fun y =>
        decide (key y ≠ key x) = true ∧ decide (key y = k) = true) = none := by simp [hk]
    rw [hothers, if_pos hk]
    simp [hk]
  · have hsame : (fun y => decide (decide (key y ≠ key x) = true ∧ decide (key y = k) = true)) =
        fun y => decide (key y = k) := by
      funext y
      by_cases hy : key y = k
      · simp [hy, Ne.symm hk]
      · simp [hy]
    rw [hsame, if_neg hk]
    simp [hk]

/-- With distinct keys, an element takes the place of at most one. -/
theorem length_put (h : (xs.map key).Nodup) :
    (put key xs x).length = if key x ∈ xs.map key then xs.length else xs.length + 1 := by
  -- where keys are distinct, dropping those that are alike is erasing one
  have herase : put id (xs.map key) (key x) = (xs.map key).erase (key x) ++ [key x] := by
    rw [put, h.erase_eq_filter]
    refine congrArg (· ++ [key x]) (List.filter_congr fun k _ => ?_)
    by_cases hk : k = key x <;> simp [hk]
  rw [← List.length_map key, map_key_put, herase, List.length_append, List.length_erase,
    List.length_map, List.length_singleton]
  split
  · rename_i hmem
    have hpos : 0 < xs.length := List.length_map key ▸ List.length_pos_of_mem hmem
    omega
  · rfl

/-- The keys of elements that are put in one by one: each once, at its last occurrence. -/
theorem map_foldl_put (xs : List α) : (xs.foldl (put key) []).map key = (xs.map key).dedup := by
  induction xs using List.reverseRecOn with
  | nil => rfl
  | append_singleton xs x ih =>
    rw [List.foldl_append, List.foldl_cons, List.foldl_nil, map_key_put, ih, List.map_append,
      List.map_singleton, dedup_concat]

/-- Of elements that are put in one by one, the last with a key is found under it. -/
theorem find?_foldl_put (xs : List α) (k : κ) :
    (xs.foldl (put key) []).find? (key · = k) = xs.reverse.find? (key · = k) := by
  induction xs using List.reverseRecOn with
  | nil => rfl
  | append_singleton xs x ih =>
    rw [List.foldl_append, List.foldl_cons, List.foldl_nil, find?_put, ih, List.reverse_concat,
      List.find?_cons]
    by_cases hk : key x = k <;> simp [hk]

end Find

end TargetBench
