/-
# Searches of a growing arena

A node that comes to an arena without children of its own is at most one more id in the lists of
children, and nothing is found below it. Where no list held its id before, each level is what it was
once the new id is left out (`Grown.filter_level`), wherever the new id stands in the queue, and so
is what a search finds and what stages lead to, since the new node leads nowhere when it passes a
stage before the last (`Grown.filter_followFrom`). The new node itself is met one level below its
parent, once each time the parent is met (`count_levels`).

Key definition: `Arena.Grown`.
Key theorems: `Arena.Grown.filter_level`, `Arena.Grown.filter_followFrom`, `Arena.count_levels`,
`Arena.follow_insertUnder`.
-/
import MarkupSearch.Proofs.Chains
import MarkupSearch.Proofs.Forest

namespace MarkupSearch

/-- A list in which one value alone gives another one, once, gives that as often as it holds the
value. -/
theorem count_flatMap_eq_count {α β : Type} [DecidableEq α] [BEq β] {f : α → List β} {x : α} {y : β}
    (once : ∀ z, (f z).count y = if z = x then 1 else 0) (zs : List α) :
    (zs.flatMap f).count y = zs.count x := by
  induction zs with
  | nil => rfl
  | cons z zs ih =>
    rw [List.flatMap_cons, List.count_append, once, ih, List.count_cons, Nat.add_comm]
    simp only [beq_iff_eq]

namespace Arena

variable {a b : Arena} {new : NodeId}

/-- An arena after it has grown by a leaf: searches see nothing else that is new in it. -/
structure Grown (a b : Arena) (new : NodeId) : Prop where
  inRange : ∀ id, id ≠ new → (b.InRange id ↔ a.InRange id)
  /-- Nodes may list the new one besides what they listed. -/
  children : ∀ id, id ≠ new → (b.childIds id).filter (· ≠ new) = a.childIds id
  leaf : b.childIds new = []
  /-- Stages accept what they accepted. -/
  passes : ∀ (s : Stage) (id : NodeId), id ≠ new → b.passes s.accepts id = a.passes s.accepts id
  before : a.Acyclic
  after : b.Acyclic

namespace Grown

theorem filter_inRange (h : Grown a b new) (ids : List NodeId) :
    (ids.filter (b.InRange ·)).filter (· ≠ new) =
      (ids.filter (· ≠ new)).filter (a.InRange ·) := by
  rw [List.filter_comm]
  refine List.filter_congr fun id hid => decide_eq_decide.mpr (h.inRange id ?_)
  exact of_decide_eq_true (List.mem_filter.mp hid).2

/-- **Levels are what they were**, the new id left out. -/
theorem filter_level (h : Grown a b new) (ids : List NodeId) (k : Nat) :
    (b.level ids k).filter (· ≠ new) = a.level (ids.filter (· ≠ new)) k := by
  induction k with
  | zero => exact h.filter_inRange ids
  | succ k ih =>
    rw [level, level, ← ih]
    refine filter_flatMap (fun id _ hid => ?_) (fun id _ hid => ?_)
    · rw [h.filter_inRange, h.children id (of_decide_eq_true hid)]
    · rw [show id = new by simpa using hid, h.leaf]
      rfl

/-- A search finds what it found, the new node left out. -/
theorem filter_search (h : Grown a b new) {test : Node → Bool}
    (hpass : ∀ id, id ≠ new → b.passes test id = a.passes test id) (ids : List NodeId) :
    (b.search test ids).filter (· ≠ new) = a.search test (ids.filter (· ≠ new)) := by
  have ended : b.level ids (b.size + 1) = [] :=
    level_eq_nil_of_depthLE b.size fun id _ => (h.after.acyclicFrom id).depthLE
  have ended' : a.level (ids.filter (· ≠ new)) (b.size + 1) = [] := by
    rw [← h.filter_level, ended, List.filter_nil]
  have levels : ((List.range (b.size + 1)).flatMap (b.level ids)).filter (· ≠ new) =
      (List.range (b.size + 1)).flatMap (a.level (ids.filter (· ≠ new))) := by
    rw [List.filter_flatMap]
    exact List.flatMap_congr fun k _ => h.filter_level ids k
  rw [search_eq_levels, List.filter_comm,
    search_eq_levels_before (fun id _ => (h.before.acyclicFrom id).depthLE) ended', ← levels]
  refine List.filter_congr fun id hid => hpass id ?_
  exact of_decide_eq_true (List.mem_filter.mp hid).2

theorem filter_findBelow (h : Grown a b new) (s : Stage) {id : NodeId} (hid : id ≠ new) :
    (b.findBelow id s.accepts).filter (· ≠ new) = a.findBelow id s.accepts := by
  rw [findBelow, h.filter_search (h.passes s), h.children id hid, findBelow]

/-- **Stages lead to what they led to**, the new node left out: from there they lead nowhere. -/
theorem filter_followFrom (h : Grown a b new) (stages : List Stage) : ∀ working : List NodeId,
    (b.followFrom stages working).filter (· ≠ new) =
      a.followFrom stages (working.filter (· ≠ new)) := by
  induction stages with
  | nil => exact fun working => rfl
  | cons s stages ih =>
    intro working
    rw [followFrom_cons, followFrom_cons, ih]
    congr 1
    refine filter_flatMap (fun id _ hid => ?_) (fun id _ hid => ?_)
    · exact h.filter_findBelow s (of_decide_eq_true hid)
    · rw [show id = new by simpa using hid, findBelow, h.leaf, search_nil]
      rfl

theorem filter_follow (h : Grown a b new) {r : NodeId} (hr : r ≠ new) (stages : List Stage) :
    (b.follow (some r) stages).filter (· ≠ new) = a.follow (some r) stages := by
  have root : [r].filter (· ≠ new) = [r] := by simp [hr]
  rw [follow, h.filter_followFrom, Option.toList_some, root, follow, Option.toList_some]

/-- What was there is met as often as it was. -/
theorem count_find (h : Grown a b new) {r x : NodeId} (hr : r ≠ new) (hx : x ≠ new) :
    (b.find (some r) fun _ => true).count x = (a.find (some r) fun _ => true).count x := by
  have root : [r].filter (· ≠ new) = [r] := by simp [hr]
  have everything : ∀ id, id ≠ new → b.passes (fun _ => true) id = a.passes (fun _ => true) id := by
    intro id hid
    rw [Bool.eq_iff_iff, passes_eq_true, passes_eq_true]
    simpa only [and_true, inRange_iff] using h.inRange id hid
  have found := h.filter_search everything [r]
  rw [root] at found
  rw [find, find, Option.toList_some, ← found, List.count_filter (p := (· ≠ new)) (decide_eq_true hx)]

end Grown

/-! ### How often the new node is met -/

/-- The new node stands once on the next level for each time that its parent stands on a level. -/
theorem count_level_succ {p : NodeId} (hnew : b.InRange new)
    (once : ∀ id, (b.childIds id).count new = if id = p then 1 else 0) (ids : List NodeId) (k : Nat) :
    (b.level ids (k + 1)).count new = (b.level ids k).count p := by
  rw [level]
  refine count_flatMap_eq_count (fun id => ?_) _
  rw [List.count_filter (p := (b.InRange ·)) (decide_eq_true hnew), once]

theorem count_levels {p r : NodeId} (hnew : b.InRange new) (hr : r ≠ new)
    (once : ∀ id, (b.childIds id).count new = if id = p then 1 else 0) (depth : Nat) :
    ((List.range (depth + 1)).flatMap (b.level [r])).count new =
      ((List.range depth).flatMap (b.level [r])).count p := by
  induction depth with
  | zero =>
    have first : new ∉ b.level [r] 0 := fun h => hr (mem_level_zero.mp h).1.symm
    rw [Nat.zero_add, List.range_one, List.flatMap_singleton, List.count_eq_zero_of_not_mem first]
    rfl
  | succ depth ih =>
    rw [List.range_succ, List.flatMap_append, List.count_append, ih, List.flatMap_singleton,
      count_level_succ hnew once, List.range_succ, List.flatMap_append, List.count_append,
      List.flatMap_singleton]

/-- A node that is in no list is led to by no stage. -/
theorem not_mem_follow (h : b.Acyclic) {r : NodeId} (hr : r ≠ new)
    (unlisted : ∀ q, ¬ b.Lists q new) (stages : List Stage) : new ∉ b.follow (some r) stages := by
  intro hmem
  obtain ⟨chain, hchain⟩ := ((tallies_follow h stages r).mem_iff new).mp hmem
  cases stages with
  | nil => exact hr (chain_nil_iff.mp hchain).2.symm
  | cons s stages =>
    obtain ⟨q, -, hq⟩ := Relation.TransGen.tail'_iff.mp (hchain.transGen (List.cons_ne_nil s stages))
    exact unlisted q hq

/-- What is found passes the test, and of what passes it as much is found as is met. -/
theorem count_find {r x : NodeId} (h : b.AcyclicFrom r) (test : Node → Bool) {depth : Nat}
    (hdepth : b.level [r] depth = []) :
    (b.find (some r) test).count x =
      if b.passes test x then ((List.range depth).flatMap (b.level [r])).count x else 0 := by
  rw [h.find_eq_levels_before hdepth]
  by_cases hx : b.passes test x = true
  · rw [if_pos hx, List.count_filter hx]
  · rw [if_neg hx]
    exact List.count_eq_zero_of_not_mem fun hm => hx (List.mem_filter.mp hm).2

/-- **The new node is found as often as its parent is met**, when it passes the test. -/
theorem count_find_new {p r : NodeId} (h : b.AcyclicFrom r) (hnew : b.InRange new) (hr : r ≠ new)
    (hp : b.InRange p) (once : ∀ id, (b.childIds id).count new = if id = p then 1 else 0)
    (test : Node → Bool) :
    (b.find (some r) test).count new =
      if b.passes test new then (b.find (some r) fun _ => true).count p else 0 := by
  have everything : b.passes (fun _ => true) p = true := by
    obtain ⟨n, hn⟩ := inRange_iff.mp hp
    exact passes_eq_true.mpr ⟨n, hn, rfl⟩
  rw [count_find h test (level_eq_nil_of_le h.level_eq_nil (Nat.le_succ _)),
    count_levels hnew hr once, count_find h _ h.level_eq_nil, if_pos everything]

/-! ### New nodes -/

section New

variable {n : Node} {p : NodeId}

theorem get?_push_of_ne (n : Node) {id : NodeId} (hid : id ≠ a.size.toUInt32) :
    (a.push n).get? id = a.get? id := by
  rw [get?_push, if_neg]
  intro h
  exact hid (by rw [← h]; exact UInt32.ofNat_toNat.symm)

/-- The id of a new node is in no list. -/
theorem size_not_mem_childIds (hsize : a.size < UInt32.size)
    (closed : ∀ q c, a.Lists q c → a.InRange c) (id : NodeId) :
    a.size.toUInt32 ∉ a.childIds id := fun h =>
  size_ne_of_inRange hsize (closed id _ h) rfl

theorem filter_childIds (hsize : a.size < UInt32.size)
    (closed : ∀ q c, a.Lists q c → a.InRange c) (id : NodeId) :
    (a.childIds id).filter (· ≠ a.size.toUInt32) = a.childIds id := by
  refine List.filter_eq_self.mpr fun c hc => decide_eq_true ?_
  rintro rfl
  exact size_not_mem_childIds hsize closed id hc

theorem grown_push (h : a.Acyclic) (hsize : a.size < UInt32.size)
    (closed : ∀ q c, a.Lists q c → a.InRange c) (hn : n.children = []) :
    Grown a (a.push n) a.size.toUInt32 where
  inRange id hid := by rw [inRange_iff, inRange_iff, get?_push_of_ne n hid]
  children id _ := by rw [childIds_push hn, filter_childIds hsize closed]
  leaf := by
    rw [childIds_push hn]
    exact childIds_of_get?_eq_none (get?_eq_none_of_toNat_eq (toNat_size hsize))
  passes s id hid := by rw [passes, passes, get?_push_of_ne n hid]
  before := h
  after := h.push hn

theorem childIds_linked_push (hn : n.children = []) (hp : a.InRange p) (id : NodeId) :
    ((a.push n).linked p a.size.toUInt32).childIds id =
      if p = id then a.childIds id ++ [a.size.toUInt32] else a.childIds id := by
  rw [childIds_linked (inRange_push n hp), childIds_push hn]

/-- No stage sees a link more. -/
theorem passes_linked (s : Stage) (p c id : NodeId) :
    (a.linked p c).passes s.accepts id = a.passes s.accepts id := by
  rw [passes, passes, get?_linked]
  cases a.get? id with
  | none => rfl
  | some n =>
    rw [Option.map_some, Option.any_some, Option.any_some]
    exact s.accepts_links n n.id _ _

theorem grown_linked_push (h : a.Acyclic) (hsize : a.size < UInt32.size)
    (closed : ∀ q c, a.Lists q c → a.InRange c) (hn : n.children = []) (hp : a.InRange p) :
    Grown a ((a.push n).linked p a.size.toUInt32) a.size.toUInt32 where
  inRange id hid := by rw [inRange_linked, (grown_push h hsize closed hn).inRange id hid]
  children id _ := by
    rw [childIds_linked_push hn hp]
    by_cases hid : p = id
    · rw [if_pos hid, List.filter_append, filter_childIds hsize closed]
      simp
    · rw [if_neg hid, filter_childIds hsize closed]
  leaf := by
    rw [childIds_linked_push hn hp, if_neg (size_ne_of_inRange hsize hp).symm]
    exact childIds_of_get?_eq_none (get?_eq_none_of_toNat_eq (toNat_size hsize))
  passes s id hid := by
    rw [passes_linked, (grown_push h hsize closed hn).passes s id hid]
  before := h
  after := h.linked_push hsize hn hp

/-- The new node is listed once in all. -/
theorem count_childIds_linked_push (hsize : a.size < UInt32.size)
    (closed : ∀ q c, a.Lists q c → a.InRange c) (hn : n.children = []) (hp : a.InRange p)
    (id : NodeId) :
    (((a.push n).linked p a.size.toUInt32).childIds id).count a.size.toUInt32 =
      if id = p then 1 else 0 := by
  have before : (a.childIds id).count a.size.toUInt32 = 0 :=
    List.count_eq_zero_of_not_mem (size_not_mem_childIds hsize closed id)
  rw [childIds_linked_push hn hp]
  by_cases hid : p = id
  · rw [if_pos hid, if_pos hid.symm, List.count_append, before, List.count_singleton_self]
  · rw [if_neg hid, if_neg fun e => hid e.symm, before]

theorem passes_push_size (hsize : a.size < UInt32.size) (s : Stage) :
    (a.push n).passes s.accepts a.size.toUInt32 = s.accepts n := by
  rw [passes, get?_push, if_pos (toNat_size hsize), Option.any_some]
  exact s.accepts_links n _ _ _

end New

/-- **A growing arena keeps what searches found.** A node without children comes below another one
that was there, where all children are in range and links form no cycle: under a new id, without
which stages lead to what they led to, in order and as often; and a search for one stage finds the
new node as often as its parent is met, if it passes the stage, and else never. A node that comes
below no other changes nothing for searches from nodes that were there. -/
theorem follow_insertUnder (hsize : a.size < UInt32.size)
    (closed : ∀ q c, a.Lists q c → a.InRange c) (acyclic : a.Acyclic) {p r : NodeId}
    (hp : a.InRange p) (hr : a.InRange r) {n : Node} (hn : n.children = []) :
    (∃ id b, (Edit.insertUnder p n).outcome a = (.ok id, b) ∧ ¬ a.InRange id ∧
      (∀ stages, (b.follow (some r) stages).filter (· ≠ id) = a.follow (some r) stages) ∧
      (∀ s : Stage, (b.find (some r) s.accepts).count id =
        if s.accepts n then (b.find (some r) fun _ => true).count p else 0) ∧
      (b.find (some r) fun _ => true).count p = (a.find (some r) fun _ => true).count p) ∧
    ∀ stages, ((Edit.insert n).outcome a).2.follow (some r) stages = a.follow (some r) stages := by
  have hne : r ≠ a.size.toUInt32 := (size_ne_of_inRange hsize hr).symm
  have hpne : p ≠ a.size.toUInt32 := (size_ne_of_inRange hsize hp).symm
  constructor
  · have grown := grown_linked_push acyclic hsize closed hn hp
    have hnew : ((a.push n).linked p a.size.toUInt32).InRange a.size.toUInt32 :=
      inRange_linked.mpr (inRange_push_size n)
    refine ⟨_, _, Edit.outcome_insertUnder hp n, fun h => size_ne_of_inRange hsize h rfl,
      grown.filter_follow hne, fun s => ?_, ?_⟩
    · rw [count_find_new (grown.after.acyclicFrom r) hnew hne
        (inRange_linked.mpr (inRange_push n hp)) (count_childIds_linked_push hsize closed hn hp),
        passes_linked, passes_push_size hsize]
    · exact grown.count_find hne hpne
  · have grown := grown_push acyclic hsize closed hn
    intro stages
    have unlisted : ∀ q, ¬ (a.push n).Lists q a.size.toUInt32 := by
      intro q
      rw [lists_push hn]
      exact size_not_mem_childIds hsize closed q
    have nowhere := not_mem_follow grown.after hne unlisted stages
    rw [Edit.outcome_insert, ← grown.filter_follow hne stages, eq_comm, List.filter_eq_self]
    intro x hx
    refine decide_eq_true ?_
    rintro rfl
    exact nowhere hx

/-- An element that lists a child twice, and a node below both. -/
def listedTwice : Arena where
  nodes := #[{ Node.element "p" [] with children := [1, 2, 1] },
    { Node.element "b" [] with children := [2] }, Node.text "x"]
  root := some 0

theorem follow_insertUnder_listedTwice :
    listedTwice.size < UInt32.size ∧ (∀ q c, listedTwice.Lists q c → listedTwice.InRange c) ∧
      listedTwice.Acyclic ∧ listedTwice.InRange 1 ∧ listedTwice.InRange 0 ∧
      ∃ id b, (Edit.insertUnder 1 (Node.element "b" [])).outcome listedTwice = (.ok id, b) ∧
        (b.follow (some 0) [.tag "b", .text]).filter (· ≠ id) =
          listedTwice.follow (some 0) [.tag "b", .text] ∧
        listedTwice.follow (some 0) [.tag "b", .text] = [2, 2] ∧
        (b.find (some 0) (Stage.tag "B").accepts).count id = 2 ∧
        (b.find (some 0) Stage.text.accepts).count id = 0 := by
  have hsize : listedTwice.size < UInt32.size := by decide
  have closed : ∀ q c, listedTwice.Lists q c → listedTwice.InRange c := fun _ c hc =>
    of_decide_eq_true (of_lists (P := fun _ c => listedTwice.InRange c) (by decide) hc)
  have h : listedTwice.Acyclic := acyclic_of_later (by decide)
  have hp : listedTwice.InRange 1 := by decide
  have hr : listedTwice.InRange 0 := by decide
  obtain ⟨⟨id, b, hb, -, stages, once, same⟩, -⟩ := follow_insertUnder hsize closed h hp hr
    (n := Node.element "b" []) rfl
  refine ⟨hsize, closed, h, hp, hr, id, b, hb, stages _, by decide +kernel, ?_, ?_⟩
  · rw [once, if_pos (by decide), same]
    decide +kernel
  · rw [once, if_neg (by decide)]

end Arena
end MarkupSearch
