/-
# Searches within a subtree

Where no node is listed twice in all and links form no cycle, a node stands on one level only
(`ListedOnce.level_unique`) and there once (`ListedOnce.level_nodup`). A subtree is entered at its
top only, so going down one level from what lies in it comes to the next level of what lies in it,
and nothing comes from beside it: the levels of the subtree are those of the tree from the level of
its top on, without what lies elsewhere (`ListedOnce.filter_level`). This is an order by levels: two
nodes of the subtree stand one before the other in it as they do in the tree. Hence a search of the
subtree is the search of the tree restricted to it (`find_eq_filter`). Links to parents and ids out
of range play no part.

Key definition: `Arena.ListedOnce`.
Key theorems: `Arena.ListedOnce.filter_level`, `Arena.find_eq_filter`.
-/
import MarkupSearch.Proofs.Forest
import MarkupSearch.Proofs.LevelOrder

namespace MarkupSearch
namespace Arena

variable {a : Arena} {r x : NodeId}

/-- No node is listed twice in all: not by two nodes, and not twice by one. -/
structure ListedOnce (a : Arena) : Prop where
  parent : ∀ p q c, a.Lists p c → a.Lists q c → p = q
  nodup : ∀ p, (a.childIds p).Nodup

/-- Where the two directions of links agree, a node that is listed names the one that lists it. -/
theorem Forest.listedOnce (h : a.Forest) : a.ListedOnce :=
  ⟨fun _ _ _ => h.parent_unique, h.nodup⟩

namespace ListedOnce

/-- No node stands on two levels. -/
theorem level_unique (h : a.ListedOnce) (acyclic : a.Acyclic) : ∀ {i j : Nat} {x : NodeId},
    x ∈ a.level [r] i → x ∈ a.level [r] j → i = j
  | 0, 0, _, _, _ => rfl
  | 0, j + 1, x, hi, hj => by
    obtain ⟨rfl, -⟩ := mem_level_zero.mp hi
    exact absurd (transGen_of_mem_level hj) (acyclic _)
  | i + 1, 0, x, hi, hj => by
    obtain ⟨rfl, -⟩ := mem_level_zero.mp hj
    exact absurd (transGen_of_mem_level hi) (acyclic _)
  | i + 1, j + 1, x, hi, hj => by
    obtain ⟨p, hp, hpx, -⟩ := mem_level_succ.mp hi
    obtain ⟨q, hq, hqx, -⟩ := mem_level_succ.mp hj
    obtain rfl := h.parent p q x hpx hqx
    rw [h.level_unique acyclic hp hq]

/-- No node stands twice on a level. -/
theorem level_nodup (h : a.ListedOnce) (k : Nat) : (a.level [r] k).Nodup := by
  induction k with
  | zero => exact (List.nodup_singleton r).filter _
  | succ k ih =>
    rw [level, List.nodup_flatMap]
    refine ⟨fun p _ => (h.nodup p).filter _, ih.imp fun {p q} hne => ?_⟩
    refine List.disjoint_left.mpr fun c hp hq => ?_
    exact hne (h.parent p q c (List.mem_of_mem_filter hp) (List.mem_of_mem_filter hq))

open Classical in
/-- **A level of the subtree** is what lies in the subtree of a level of the tree. -/
theorem filter_level (h : a.ListedOnce) (acyclic : a.Acyclic) {d : Nat} (hx : x ∈ a.level [r] d)
    (k : Nat) :
    (a.level [r] (d + k)).filter (fun y => Relation.ReflTransGen a.Lists x y) = a.level [x] k := by
  induction k with
  | zero =>
    have top : ∀ y ∈ a.level [r] d,
        decide (Relation.ReflTransGen a.Lists x y) = decide (y = x) := by
      intro y hy
      refine decide_eq_decide.mpr ⟨fun hxy => ?_, ?_⟩
      · obtain ⟨m, hm⟩ := exists_mem_level hxy (inRange_of_mem_level hy)
        have hdm : d = d + m := h.level_unique acyclic hy (mem_level_add hx hm)
        obtain rfl : m = 0 := by omega
        exact (mem_level_zero.mp hm).1
      · rintro rfl
        exact .refl
    have once : (a.level [r] d).count x = 1 := List.count_eq_one_of_mem (h.level_nodup d) hx
    have hr : a.InRange x := inRange_of_mem_level hx
    calc (a.level [r] d).filter (fun y => Relation.ReflTransGen a.Lists x y)
        = (a.level [r] d).filter (fun y => y = x) := List.filter_congr top
      _ = [x] := by rw [List.filter_eq, once, List.replicate_one]
      _ = a.level [x] 0 := by simp [level, hr]
  | succ k ih =>
    rw [← Nat.add_assoc, level, level, ← ih]
    refine filter_flatMap (fun y _ hy => ?_) (fun y hy outside => ?_)
    · refine List.filter_eq_self.mpr fun c hc => decide_eq_true ?_
      exact (of_decide_eq_true hy).tail (List.mem_of_mem_filter hc)
    · refine List.filter_eq_nil_iff.mpr fun c hc hxc => ?_
      have hyc : a.Lists y c := List.mem_of_mem_filter hc
      -- the subtree is entered at its top only, and that stands on level `d`
      rcases (of_decide_eq_true hxc).cases_tail with rfl | ⟨p, hxp, hpc⟩
      · have hnext : c ∈ a.level [r] (d + k + 1) :=
          mem_level_succ.mpr ⟨y, hy, hyc, inRange_of_mem_level hx⟩
        have := h.level_unique acyclic hx hnext
        omega
      · obtain rfl := h.parent p y c hpc hyc
        exact of_decide_eq_false outside hxp

open Classical in
/-- Above the top nothing lies in the subtree. -/
theorem filter_level_of_lt (h : a.ListedOnce) (acyclic : a.Acyclic) {d k : Nat}
    (hx : x ∈ a.level [r] d) (hk : k < d) :
    (a.level [r] k).filter (fun y => Relation.ReflTransGen a.Lists x y) = [] := by
  refine List.filter_eq_nil_iff.mpr fun y hy hxy => ?_
  obtain ⟨m, hm⟩ := exists_mem_level (of_decide_eq_true hxy) (inRange_of_mem_level hy)
  have := h.level_unique acyclic hy (mem_level_add hx hm)
  omega

open Classical in
/-- The levels of the subtree are what lies in the subtree of the levels of the tree. -/
theorem filter_levels (h : a.ListedOnce) (acyclic : a.Acyclic) {d : Nat}
    (hx : x ∈ a.level [r] d) (depth : Nat) :
    ((List.range (d + depth)).flatMap (a.level [r])).filter
        (fun y => Relation.ReflTransGen a.Lists x y) =
      (List.range depth).flatMap (a.level [x]) := by
  have above : (List.range d).flatMap (fun k => (a.level [r] k).filter
      (fun y => Relation.ReflTransGen a.Lists x y)) = [] :=
    List.flatMap_eq_nil_iff.mpr fun k hk =>
      h.filter_level_of_lt acyclic hx (List.mem_range.mp hk)
  rw [List.filter_flatMap, List.range_add, List.flatMap_append, above, List.nil_append,
    List.flatMap_map]
  exact List.flatMap_congr fun k _ => h.filter_level acyclic hx k

open Classical in
/-- A search from a node of the tree finds what the search of the tree finds in its subtree. -/
theorem find_eq (h : a.ListedOnce) (acyclic : a.Acyclic) (hx : a.InRange x)
    (hrx : Relation.ReflTransGen a.Lists r x) (test : Node → Bool) :
    a.find (some x) test =
      (a.find (some r) test).filter (fun y => Relation.ReflTransGen a.Lists x y) := by
  obtain ⟨d, hd⟩ := exists_mem_level hrx hx
  have ended : a.level [r] (d + (a.size + 1)) = [] :=
    level_eq_nil_of_le (acyclic.acyclicFrom r).level_eq_nil (Nat.le_add_left _ _)
  rw [(acyclic.acyclicFrom x).find_eq_levels_before (acyclic.acyclicFrom x).level_eq_nil,
    (acyclic.acyclicFrom r).find_eq_levels_before ended, List.filter_comm,
    h.filter_levels acyclic hd]

end ListedOnce

open Classical in
/-- What is found below a node is what a search from it finds without the node itself. -/
theorem findBelow_eq_filter (acyclic : a.Acyclic) (x : NodeId) (test : Node → Bool) :
    a.findBelow x test =
      (a.find (some x) test).filter (fun y => Relation.TransGen a.Lists x y) := by
  have top : ([x].filter (a.passes test)).filter (fun y => Relation.TransGen a.Lists x y) = [] := by
    refine List.filter_eq_nil_iff.mpr fun y hy hxy => ?_
    rw [List.mem_singleton.mp (List.mem_of_mem_filter hy)] at hxy
    exact acyclic x (of_decide_eq_true hxy)
  have below : (a.findBelow x test).filter (fun y => Relation.TransGen a.Lists x y) =
      a.findBelow x test := by
    refine List.filter_eq_self.mpr fun y hy => decide_eq_true ?_
    rw [findBelow_eq_levels] at hy
    obtain ⟨k, -, hk⟩ := List.mem_flatMap.mp (List.mem_of_mem_filter hy)
    exact transGen_of_mem_level hk
  rw [find_some_eq_append (acyclic.acyclicFrom x), List.filter_append, top, below,
    List.nil_append]

open Classical in
/-- **A search in a subtree is the whole search restricted to it**, in the same order: from a node
that is the root or lies below it, a search finds what the search from the root finds, without what
is neither that node nor strictly below it; and below that node it finds what the search from the
root finds strictly below it. -/
theorem find_eq_filter (h : a.ListedOnce) (acyclic : a.Acyclic) {r x : NodeId} (hx : a.InRange x)
    (hrx : Relation.ReflTransGen a.Lists r x) (test : Node → Bool) :
    a.find (some x) test =
        (a.find (some r) test).filter (fun y => y = x ∨ Relation.TransGen a.Lists x y) ∧
      a.findBelow x test =
        (a.find (some r) test).filter (fun y => Relation.TransGen a.Lists x y) := by
  have whole := h.find_eq acyclic hx hrx test
  simp only [Relation.reflTransGen_iff_eq_or_transGen] at whole
  refine ⟨whole, ?_⟩
  rw [findBelow_eq_filter acyclic, whole, List.filter_filter]
  refine List.filter_congr fun y _ => ?_
  by_cases hxy : Relation.TransGen a.Lists x y
  · simp [hxy]
  · simp [hxy]

/-- Two branches of a list, whose levels alternate. -/
def branches : Arena :=
  [.insertUnder 0 (Node.element "li" []), .insertUnder 0 (Node.element "li" []),
    .insertUnder 2 (Node.text "x"), .insertUnder 1 (Node.element "b" []),
    .insertUnder 4 (Node.text "y")].foldl Change.after
      (Change.after empty (.insert (Node.element "ul" [])))

open Classical in
theorem find_eq_filter_branches :
    branches.ListedOnce ∧ branches.Acyclic ∧ branches.InRange 1 ∧
      Relation.ReflTransGen branches.Lists 0 1 ∧
      branches.find (some 0) (fun _ => true) = [0, 1, 2, 4, 3, 5] ∧
      branches.find (some 1) (fun _ => true) = [1, 4, 5] ∧
      branches.find (some 1) (fun _ => true) =
        (branches.find (some 0) (fun _ => true)).filter
          (fun y => y = 1 ∨ Relation.TransGen branches.Lists 1 y) ∧
      branches.findBelow 1 Node.isText =
        (branches.find (some 0) Node.isText).filter
          (fun y => Relation.TransGen branches.Lists 1 y) := by
  have list := Built.change (.insert (Node.element "ul" [])) .empty ⟨⟨rfl, rfl⟩, by decide⟩
  have one := Built.change (.insertUnder 0 (Node.element "li" [])) list ⟨⟨rfl, rfl⟩, by decide⟩
  have two := Built.change (.insertUnder 0 (Node.element "li" [])) one ⟨⟨rfl, rfl⟩, by decide⟩
  have text := Built.change (.insertUnder 2 (Node.text "x")) two ⟨⟨rfl, rfl⟩, by decide⟩
  have bold := Built.change (.insertUnder 1 (Node.element "b" [])) text ⟨⟨rfl, rfl⟩, by decide⟩
  have forest : branches.Forest :=
    (Built.change (.insertUnder 4 (Node.text "y")) bold ⟨⟨rfl, rfl⟩, by decide⟩).forest
  have listed : 1 ∈ branches.childIds 0 := by decide
  have hx : branches.InRange 1 := inRange_of_mem_childIds (c := 4) (by decide)
  obtain ⟨all, -⟩ := find_eq_filter forest.listedOnce forest.acyclic hx (.single listed) fun _ => true
  obtain ⟨-, texts⟩ := find_eq_filter forest.listedOnce forest.acyclic hx (.single listed) Node.isText
  exact ⟨forest.listedOnce, forest.acyclic, hx, .single listed, by decide +kernel,
    by decide +kernel, all, texts⟩

end Arena
end MarkupSearch
