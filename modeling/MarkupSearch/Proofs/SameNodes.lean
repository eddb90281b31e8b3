/-
# Depth first and breadth first

A walk and a search from one id meet the same nodes, each as often as there are paths to it, in two
orders. Both orders come from one unfolding of the links: what is below an id in document order is
what is below its children one child after the other, and a level below an id is that level below
its children, joined. So the ids in document order are those of all levels, sorted differently, once
the ids out of range are left out, which document order lists and levels do not
(`Arena.preorder_perm_levels`).

Key definition: `Arena.nodesAt`.
Key theorems: `Arena.preorder_perm_levels`, `Arena.find_perm_preorder`, `Arena.mem_preorder_iff`.
-/
import Mathlib.Data.List.Perm.Basic
import MarkupSearch.Proofs.DocumentOrder
import MarkupSearch.Proofs.LevelOrder

namespace MarkupSearch

/-- What pairs give is the same, whichever of the two lists is gone through first. -/
theorem flatMap_flatMap_perm {α β γ : Type} (f : α → β → List γ) (xs : List α) (ys : List β) :
    (xs.flatMap fun x => ys.flatMap (f x)).Perm
      (ys.flatMap fun y => xs.flatMap fun x => f x y) := by
  induction xs with
  | nil => simp
  | cons x xs ih =>
    have rest : (ys.flatMap (f x) ++ xs.flatMap fun x => ys.flatMap (f x)).Perm
        (ys.flatMap (f x) ++ ys.flatMap fun y => xs.flatMap fun x => f x y) := ih.append_left _
    have both : (ys.flatMap (f x) ++ ys.flatMap fun y => xs.flatMap fun x => f x y).Perm
        (ys.flatMap fun y => f x y ++ xs.flatMap fun x => f x y) := List.flatMap_append_perm ys _ _
    simp only [List.flatMap_cons]
    exact rest.trans both

namespace Arena

variable {a : Arena} {id : NodeId} {test : Node → Bool}

/-! ### Levels, from each id by itself -/

theorem level_nil (k : Nat) : a.level [] k = [] := by
  induction k with
  | zero => rfl
  | succ k ih => rw [level, ih, List.flatMap_nil]

theorem level_append (ids more : List NodeId) (k : Nat) :
    a.level (ids ++ more) k = a.level ids k ++ a.level more k := by
  induction k with
  | zero => exact List.filter_append ids more
  | succ k ih => rw [level, ih, List.flatMap_append, level, level]

/-- A level from several ids is that level from each of them, one after the other. -/
theorem level_eq_flatMap (ids : List NodeId) (k : Nat) :
    a.level ids k = ids.flatMap fun id => a.level [id] k := by
  induction ids with
  | nil => exact level_nil k
  | cons id ids ih => rw [List.flatMap_cons, ← ih, ← level_append, List.singleton_append]

/-! ### Document order and levels -/

/-- What is listed one after the other may be sorted part by part. -/
theorem flatten_pmap_filter_perm {P : NodeId → Prop} {list : (id : NodeId) → P id → List NodeId}
    {other : NodeId → List NodeId} {keep : NodeId → Bool} :
    ∀ (ids : List NodeId) (hids : ∀ id ∈ ids, P id),
      (∀ id (h : id ∈ ids), ((list id (hids id h)).filter keep).Perm (other id)) →
      ((ids.pmap list hids).flatten.filter keep).Perm (ids.flatMap other)
  | [], _, _ => .refl _
  | id :: ids, hids, each => by
    have rest := flatten_pmap_filter_perm ids (fun c hc => hids c (List.mem_cons_of_mem _ hc))
      fun c hc => each c (List.mem_cons_of_mem _ hc)
    rw [List.pmap_cons, List.flatten_cons, List.filter_append, List.flatMap_cons]
    exact (each id List.mem_cons_self).append rest

/-- **Document order has the ids of all levels**, those out of range apart. -/
theorem preorder_perm_levels (links : Nat) : ∀ (id : NodeId) (h : a.AcyclicFrom id),
    a.DepthLE links id → ((a.preorder id h).filter (a.InRange ·)).Perm
      ((List.range (links + 1)).flatMap (a.level [id])) := by
  induction links with
  | zero =>
    intro id h hd
    have leaf : a.childIds id = [] := hd
    rw [preorder_eq]
    simp only [leaf, List.pmap_nil, List.flatten_nil]
    rw [Nat.zero_add, List.range_one, List.flatMap_singleton]
    exact .refl _
  | succ links ih =>
    intro id h hd
    have below : (((a.childIds id).pmap a.preorder fun _ hc => h.child hc).flatten.filter
        (a.InRange ·)).Perm
        ((a.childIds id).flatMap fun c => (List.range (links + 1)).flatMap (a.level [c])) :=
      flatten_pmap_filter_perm (a.childIds id) _ fun c hc => ih c (h.child hc) (hd c hc)
    have swap := below.trans (flatMap_flatMap_perm (fun c => a.level [c]) _ _)
    have levels : ∀ k, ((a.childIds id).flatMap fun c => a.level [c] k) = a.level [id] (k + 1) := by
      intro k
      rw [level_succ, List.flatMap_singleton, ← level_eq_flatMap]
    simp only [levels] at swap
    have first : List.range (links + 1 + 1) = 0 :: (List.range (links + 1)).map Nat.succ :=
      List.range_succ_eq_map
    calc (a.preorder id h).filter (a.InRange ·)
        = a.level [id] 0 ++ ((a.childIds id).pmap a.preorder fun _ hc => h.child hc).flatten.filter
            (a.InRange ·) := by
          rw [preorder_eq, ← List.singleton_append, List.filter_append]
          rfl
      List.Perm _ (a.level [id] 0 ++ (List.range (links + 1)).flatMap fun k =>
            a.level [id] (k + 1)) := swap.append_left _
      _ = (List.range (links + 1 + 1)).flatMap (a.level [id]) := by
          rw [first, List.flatMap_cons, List.flatMap_map]

/-- **A search finds what a walk comes to**, as far as it passes the test, as often and in another
order. -/
theorem find_perm_preorder (h : a.AcyclicFrom id) (test : Node → Bool) :
    ((a.preorder id h).filter (a.passes test)).Perm (a.find (some id) test) := by
  have perm := (preorder_perm_levels a.size id h h.depthLE).filter (a.passes test)
  rw [filter_passes_inRange] at perm
  rw [find, Option.toList_some, search_eq_levels]
  exact perm

/-- Document order lists what can be reached. -/
theorem mem_preorder_iff (h : a.AcyclicFrom id) {x : NodeId} :
    x ∈ a.preorder id h ↔ Relation.ReflTransGen a.Lists id x := by
  constructor
  · exact reflTransGen_of_mem_preorder h
  · intro hx
    induction hx using Relation.ReflTransGen.head_induction_on with
    | refl =>
      rw [preorder_eq]
      exact List.mem_cons_self
    | @head id c hc _ ih =>
      rw [preorder_eq, List.mem_cons]
      right
      have listed : a.preorder c (h.child hc) ∈
          (a.childIds id).pmap a.preorder fun _ hc => h.child hc := List.mem_pmap.mpr ⟨c, hc, rfl⟩
      exact List.mem_flatten.mpr ⟨_, listed, ih (h.child hc)⟩

/-! ### Nodes -/

/-- The nodes with these ids; ids out of range are passed over. -/
def nodesAt (a : Arena) (ids : List NodeId) : List Node := ids.filterMap a.get?

theorem nodesAt_cons {n : Node} (hn : a.get? id = some n) (ids : List NodeId) :
    a.nodesAt (id :: ids) = n :: a.nodesAt ids := by
  rw [nodesAt, List.filterMap_cons_some hn, nodesAt]

theorem eq_nodesAt {ns : List Node} {ids : List NodeId} (h : ns.map some = ids.map a.get?) :
    ns = a.nodesAt ids := by
  calc ns = (ns.map some).filterMap id := by simp
    _ = (ids.map a.get?).filterMap id := by rw [h]
    _ = a.nodesAt ids := by
        rw [List.filterMap_map]
        rfl

theorem nodesAt_filter_passes (ids : List NodeId) :
    a.nodesAt (ids.filter (a.passes test)) = (a.nodesAt ids).filter test := by
  rw [nodesAt, nodesAt, List.filterMap_filter, List.filter_filterMap]
  refine List.filterMap_congr fun id _ => ?_
  rw [passes]
  cases a.get? id with
  | none => rfl
  | some n => simp [Option.filter]

end Arena
end MarkupSearch
