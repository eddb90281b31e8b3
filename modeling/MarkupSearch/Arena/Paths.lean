/-
# Paths along child links

What waits in the loops that work through an arena are visits: an id, and how many child links may
still be followed from it. A visit to a node leads to visits to its children, so a node is visited
once for each path of child links that leads to it. On links without a cycle a path passes no node
twice, and so has at most as many links as there are nodes; visits that begin with this reach
therefore miss nothing. The number of paths that start with what waits is the number of visits to
come, and falls with each one.

Key definitions: `Arena.Visit`, `Arena.Visit.below`, `Arena.visits`, `Arena.pathCount`,
`Arena.pathsFrom`.
Key theorem: `Arena.pathCount_eq`.
-/
import MarkupSearch.Arena

namespace MarkupSearch
namespace Arena

/-- The ids that a node lists as its children; none for an id out of range. -/
def childIds (a : Arena) (id : NodeId) : List NodeId :=
  match a.get? id with
  | some n => n.children
  | none => []

/-- An id to visit, and how many child links may be followed from it. -/
structure Visit where
  id : NodeId
  reach : Nat
deriving DecidableEq, Repr

/-- The visits to children that a visit leads to. -/
def Visit.below (v : Visit) (children : List NodeId) : List Visit :=
  match v.reach with
  | 0 => []
  | reach + 1 => children.map fun id => ⟨id, reach⟩

/-- Visits to ids, with the reach of any path that passes no node twice. -/
def visits (a : Arena) (ids : List NodeId) : List Visit := ids.map fun id => ⟨id, a.size⟩

/-- The number of paths of at most so many child links that start at an id: the empty one, those
that end at an id out of range, and different places in a list of children counted apart. -/
def pathCount (a : Arena) : Nat → NodeId → Nat
  | 0, _ => 1
  | links + 1, id => 1 + (a.childIds id).foldr (fun c paths => a.pathCount links c + paths) 0

/-- The number of paths that start with one of these visits. -/
def pathsFrom (a : Arena) (vs : List Visit) : Nat :=
  vs.foldr (fun v paths => a.pathCount v.reach v.id + paths) 0

theorem childIds_of_get? {a : Arena} {id : NodeId} {n : Node} (h : a.get? id = some n) :
    a.childIds id = n.children := by
  simp [childIds, h]

@[simp] theorem pathsFrom_nil (a : Arena) : a.pathsFrom [] = 0 := rfl

@[simp] theorem pathsFrom_cons (a : Arena) (v : Visit) (vs : List Visit) :
    a.pathsFrom (v :: vs) = a.pathCount v.reach v.id + a.pathsFrom vs := rfl

@[simp] theorem pathsFrom_append (a : Arena) (vs ws : List Visit) :
    a.pathsFrom (vs ++ ws) = a.pathsFrom vs + a.pathsFrom ws := by
  induction vs with
  | nil => simp
  | cons v vs ih => simp [ih, Nat.add_assoc]

/-- A path is empty or goes on from a child. -/
theorem pathCount_eq (a : Arena) (v : Visit) :
    a.pathCount v.reach v.id = 1 + a.pathsFrom (v.below (a.childIds v.id)) := by
  cases v with
  | mk id reach =>
    cases reach with
    | zero => rfl
    | succ reach => simp [pathCount, pathsFrom, Visit.below, List.foldr_map]

theorem pathCount_pos (a : Arena) (v : Visit) : 0 < a.pathCount v.reach v.id := by
  rw [pathCount_eq]
  omega

end Arena
end MarkupSearch
