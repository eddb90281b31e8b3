/-
# A search goes level by level

The queue of a search holds the rest of one level and, behind it, what the nodes taken from that
level list. Taking the rest of the level off the queue therefore leaves the next level whole
(`run_searchLoop_level`), and the search comes to the levels one after the other
(`search_eq_levels`). Repeated children and shared nodes stand in a level once for each way to
them, and ids out of range are left out of the levels without changing the order of the rest.

Where no cycle can be reached there is an empty level, and all levels after it are empty too, so
what a search gives is all levels there are (`find_eq_levels`).

Key definitions: `Arena.passes`, `Arena.level`.
Key theorems: `Arena.search_eq_levels`, `Arena.findBelow_eq_levels`, `Arena.find_some_eq_append`,
`Arena.find_eq_levels`.
-/
import MarkupSearch.Proofs.Links
import MarkupSearch.Search

namespace MarkupSearch

namespace Queue

theorem exists_dequeue?_eq_some {α : Type} {q : Queue α} {x : α} {rest : List α}
    (h : q.toList = x :: rest) : ∃ r, q.dequeue? = some (x, r) ∧ r.toList = rest := by
  cases hq : q.dequeue? with
  | none => rw [toList_of_dequeue?_eq_none hq] at h; simp at h
  | some p =>
    obtain ⟨y, r⟩ := p
    rw [toList_of_dequeue?_eq_some hq, List.cons.injEq] at h
    exact ⟨r, by rw [h.1], h.2⟩

end Queue

/-- Values that give nothing may be left out. -/
theorem flatMap_filter_of_nil {α β : Type} {p : α → Bool} {f : α → List β}
    (h : ∀ x, p x = false → f x = []) (xs : List α) :
    (xs.filter p).flatMap f = xs.flatMap f := by
  induction xs with
  | nil => rfl
  | cons x xs ih =>
    by_cases hx : p x = true
    · rw [List.filter_cons_of_pos hx, List.flatMap_cons, List.flatMap_cons, ih]
    · rw [List.filter_cons_of_neg hx, List.flatMap_cons, ih, h x (by simpa using hx),
        List.nil_append]

/-- What is kept of the lists that values give is what the values that are kept give, when the
others give nothing that is kept. -/
theorem filter_flatMap {α β : Type} {p : α → Bool} {q : β → Bool} {f g : α → List β} {xs : List α}
    (keep : ∀ x ∈ xs, p x = true → (f x).filter q = g x)
    (drop : ∀ x ∈ xs, p x = false → (f x).filter q = []) :
    (xs.flatMap f).filter q = (xs.filter p).flatMap g := by
  induction xs with
  | nil => rfl
  | cons x xs ih =>
    have rest := ih (fun y hy => keep y (List.mem_cons_of_mem _ hy))
      fun y hy => drop y (List.mem_cons_of_mem _ hy)
    rw [List.flatMap_cons, List.filter_append, rest]
    by_cases hx : p x = true
    · rw [List.filter_cons_of_pos hx, List.flatMap_cons, keep x List.mem_cons_self hx]
    · rw [List.filter_cons_of_neg hx, drop x List.mem_cons_self (by simpa using hx),
        List.nil_append]

namespace Arena

variable {a : Arena} {test : Node → Bool}

/-- Whether an id is in range and its node passes a test. -/
def passes (a : Arena) (test : Node → Bool) (id : NodeId) : Bool := (a.get? id).any test

theorem passes_eq_true {id : NodeId} :
    a.passes test id = true ↔ ∃ n, a.get? id = some n ∧ test n = true := by
  rw [passes, Option.any_eq_true]

theorem filter_passes_inRange (ids : List NodeId) :
    (ids.filter (a.InRange ·)).filter (a.passes test) = ids.filter (a.passes test) := by
  rw [List.filter_filter]
  refine List.filter_congr fun id _ => ?_
  cases hn : a.get? id with
  | none => simp [passes, hn]
  | some n => simp [inRange_of_get? hn]

/-! ### Levels -/

/-- The ids in range that are this many child links away from some ids, in level order. -/
def level (a : Arena) (ids : List NodeId) : Nat → List NodeId
  | 0 => ids.filter (a.InRange ·)
  | k + 1 => (a.level ids k).flatMap fun id => (a.childIds id).filter (a.InRange ·)

theorem flatMap_filter_inRange (ids : List NodeId) :
    (ids.filter (a.InRange ·)).flatMap a.childIds = ids.flatMap a.childIds :=
  flatMap_filter_of_nil (fun _ h => childIds_of_not_inRange (of_decide_eq_false h)) ids

/-- The levels from some ids after the first are the levels from their children. -/
theorem level_succ (ids : List NodeId) (k : Nat) :
    a.level ids (k + 1) = a.level (ids.flatMap a.childIds) k := by
  induction k with
  | zero =>
    rw [level, level, level, ← flatMap_filter_inRange, List.filter_flatMap]
  | succ k ih =>
    rw [level, ih]
    rfl

/-! ### What stands on a level -/

section Members

variable {r x : NodeId} {k : Nat}

theorem mem_level_zero : x ∈ a.level [r] 0 ↔ x = r ∧ a.InRange x := by
  rw [level, List.mem_filter, List.mem_singleton, decide_eq_true_eq]

theorem mem_level_succ {ids : List NodeId} :
    x ∈ a.level ids (k + 1) ↔ ∃ p ∈ a.level ids k, a.Lists p x ∧ a.InRange x := by
  simp only [level, List.mem_flatMap, List.mem_filter, decide_eq_true_eq, Lists]

theorem inRange_of_mem_level {ids : List NodeId} (hx : x ∈ a.level ids k) : a.InRange x := by
  cases k with
  | zero => exact of_decide_eq_true (List.mem_filter.mp hx).2
  | succ k =>
    obtain ⟨-, -, -, hr⟩ := mem_level_succ.mp hx
    exact hr

theorem reflTransGen_of_mem_level (hx : x ∈ a.level [r] k) :
    Relation.ReflTransGen a.Lists r x := by
  induction k generalizing x with
  | zero => rw [(mem_level_zero.mp hx).1]
  | succ k ih =>
    obtain ⟨p, hp, hpx, -⟩ := mem_level_succ.mp hx
    exact (ih hp).tail hpx

theorem transGen_of_mem_level (hx : x ∈ a.level [r] (k + 1)) : Relation.TransGen a.Lists r x := by
  obtain ⟨p, hp, hpx, -⟩ := mem_level_succ.mp hx
  exact .tail' (reflTransGen_of_mem_level hp) hpx

/-- What can be reached stands on some level. -/
theorem exists_mem_level (hx : Relation.ReflTransGen a.Lists r x) (hr : a.InRange x) :
    ∃ k, x ∈ a.level [r] k := by
  induction hx with
  | refl => exact ⟨0, mem_level_zero.mpr ⟨rfl, hr⟩⟩
  | tail _ hc ih =>
    obtain ⟨k, hk⟩ := ih (inRange_of_mem_childIds hc)
    exact ⟨k + 1, mem_level_succ.mpr ⟨_, hk, hc, hr⟩⟩

/-- Levels from a node are so many levels further down than the node is. -/
theorem mem_level_add {d : Nat} (hx : x ∈ a.level [r] d) {y : NodeId} (hy : y ∈ a.level [x] k) :
    y ∈ a.level [r] (d + k) := by
  induction k generalizing y with
  | zero =>
    rw [(mem_level_zero.mp hy).1]
    exact hx
  | succ k ih =>
    obtain ⟨p, hp, hpy, hr⟩ := mem_level_succ.mp hy
    exact mem_level_succ.mpr ⟨p, ih hp, hpy, hr⟩

end Members

/-! ### One round -/

theorem run_searchLoop_nil {q : Queue Visit} (h : q.toList = []) (found : List NodeId) :
    (a.searchLoop test).run ⟨q, found⟩ = found.reverse := by
  refine Loop.run_of_done ?_
  have hq : q.dequeue? = none := by
    cases hq : q.dequeue? with
    | none => rfl
    | some p => rw [Queue.toList_of_dequeue?_eq_some hq] at h; simp at h
  simp [searchLoop, searchRound, hq]

/-- A visit is taken off the queue, and visits to the children join its end. -/
theorem run_searchLoop_cons (test : Node → Bool) {q : Queue Visit} {v : Visit} {rest : List Visit}
    (h : q.toList = v :: rest) (found : List NodeId) :
    ∃ r : Queue Visit, r.toList = rest ++ v.below (a.childIds v.id) ∧
      (a.searchLoop test).run ⟨q, found⟩ =
        (a.searchLoop test).run ⟨r, if a.passes test v.id then v.id :: found else found⟩ := by
  obtain ⟨r, hq, hr⟩ := Queue.exists_dequeue?_eq_some h
  cases hn : a.get? v.id with
  | none =>
    refine ⟨r, ?_, Loop.run_of_next ?_⟩
    · rw [hr, childIds_of_get?_eq_none hn, Visit.below]
      split <;> simp
    · simp [searchLoop, searchRound, hq, hn, passes]
  | some n =>
    refine ⟨r.enqueueAll (v.below n.children), ?_, Loop.run_of_next ?_⟩
    · rw [Queue.toList_enqueueAll, hr, childIds_of_get? hn]
    · simp [searchLoop, searchRound, hq, hn, passes]

/-! ### One level, and all levels -/

/-- Visits to ids with one reach. -/
def visitsWith (reach : Nat) (ids : List NodeId) : List Visit := ids.map fun id => ⟨id, reach⟩

/-- The rest of a level is taken off the queue, and the next level stands there whole. -/
theorem run_searchLoop_level (test : Node → Bool) (reach : Nat) : ∀ (ids next : List NodeId)
    (q : Queue Visit) (found : List NodeId), q.toList = visitsWith (reach + 1) ids ++ visitsWith reach next →
    ∃ r : Queue Visit, r.toList = visitsWith reach (next ++ ids.flatMap a.childIds) ∧
      (a.searchLoop test).run ⟨q, found⟩ =
        (a.searchLoop test).run ⟨r, (ids.filter (a.passes test)).reverse ++ found⟩ := by
  intro ids
  induction ids with
  | nil => exact fun next q found h => ⟨q, by simpa [visitsWith] using h, rfl⟩
  | cons id ids ih =>
    intro next q found h
    obtain ⟨q', hq', run⟩ := run_searchLoop_cons (a := a) test h found
    have hq' : q'.toList =
        visitsWith (reach + 1) ids ++ visitsWith reach (next ++ a.childIds id) := by
      simpa [visitsWith, Visit.below] using hq'
    obtain ⟨r, hr, run'⟩ := ih (next ++ a.childIds id) q' _ hq'
    refine ⟨r, ?_, ?_⟩
    · rw [hr, List.flatMap_cons, List.append_assoc]
    · rw [run, run', List.filter_cons]
      split <;> simp

/-- The last level: no visit has reach left. -/
theorem run_searchLoop_last : ∀ (ids : List NodeId) (q : Queue Visit) (found : List NodeId),
    q.toList = visitsWith 0 ids →
    (a.searchLoop test).run ⟨q, found⟩ = found.reverse ++ ids.filter (a.passes test) := by
  intro ids
  induction ids with
  | nil =>
    intro q found h
    rw [run_searchLoop_nil h, List.filter_nil, List.append_nil]
  | cons id ids ih =>
    intro q found h
    obtain ⟨r, hr, run⟩ := run_searchLoop_cons (a := a) test h found
    rw [run, ih r _ (by simpa [visitsWith, Visit.below] using hr), List.filter_cons]
    split <;> simp

theorem run_searchLoop_levels (reach : Nat) : ∀ (ids : List NodeId) (q : Queue Visit)
    (found : List NodeId), q.toList = visitsWith reach ids →
    (a.searchLoop test).run ⟨q, found⟩ =
      found.reverse ++ ((List.range (reach + 1)).flatMap (a.level ids)).filter (a.passes test) := by
  induction reach with
  | zero =>
    intro ids q found h
    rw [run_searchLoop_last ids q found h, Nat.zero_add, List.range_one, List.flatMap_singleton,
      level, filter_passes_inRange]
  | succ reach ih =>
    intro ids q found h
    obtain ⟨r, hr, run⟩ := run_searchLoop_level (a := a) test reach ids [] q found
      (by simpa [visitsWith] using h)
    have levels : (List.range (reach + 2)).flatMap (a.level ids) =
        a.level ids 0 ++ (List.range (reach + 1)).flatMap (a.level (ids.flatMap a.childIds)) := by
      rw [List.range_succ_eq_map, List.flatMap_cons, List.flatMap_map]
      congr 1
      exact List.flatMap_congr fun k _ => level_succ ids k
    rw [run, ih _ r _ hr, levels, List.filter_append, level, filter_passes_inRange]
    simp

theorem search_nil (test : Node → Bool) : a.search test [] = [] := by
  have nothing : (Queue.ofList (a.visits [])).toList = [] := rfl
  rw [search, run_searchLoop_nil nothing, List.reverse_nil]

/-- **A search goes level by level.** -/
theorem search_eq_levels (test : Node → Bool) (ids : List NodeId) :
    a.search test ids =
      ((List.range (a.size + 1)).flatMap (a.level ids)).filter (a.passes test) := by
  rw [search, run_searchLoop_levels a.size ids]
  · rfl
  · rw [Queue.toList_ofList]
    rfl

/-- What lies strictly below a node: its levels without the first. -/
theorem findBelow_eq_levels (id : NodeId) (test : Node → Bool) :
    a.findBelow id test =
      ((List.range (a.size + 1)).flatMap fun k => a.level [id] (k + 1)).filter (a.passes test) := by
  rw [findBelow, search_eq_levels]
  congr 1
  refine List.flatMap_congr fun k _ => ?_
  rw [level_succ, List.flatMap_singleton]

/-! ### Where the levels end -/

theorem level_eq_nil_of_le {ids : List NodeId} {j k : Nat} (h : a.level ids j = []) (hjk : j ≤ k) :
    a.level ids k = [] := by
  induction k, hjk using Nat.le_induction with
  | base => exact h
  | succ k _ ih => rw [level, ih, List.flatMap_nil]

/-- Where no path has more than so many links, there is nothing on a level further away. -/
theorem level_eq_nil_of_depthLE (links : Nat) : ∀ {ids : List NodeId},
    (∀ id ∈ ids, a.DepthLE links id) → a.level ids (links + 1) = [] := by
  induction links with
  | zero =>
    intro ids h
    have leaves : ids.flatMap a.childIds = [] := List.flatMap_eq_nil_iff.mpr h
    rw [level_succ, leaves, level, List.filter_nil]
  | succ links ih =>
    intro ids h
    rw [level_succ]
    apply ih
    intro c hc
    obtain ⟨id, hid, hc⟩ := List.mem_flatMap.mp hc
    exact h id hid c hc

/-- Empty levels add nothing. -/
theorem flatMap_level_of_le {ids : List NodeId} {j k : Nat} (h : a.level ids j = [])
    (hjk : j ≤ k) :
    (List.range k).flatMap (a.level ids) = (List.range j).flatMap (a.level ids) := by
  induction k, hjk using Nat.le_induction with
  | base => rfl
  | succ k hk ih =>
    rw [List.range_succ, List.flatMap_append, ih, List.flatMap_singleton,
      level_eq_nil_of_le h hk, List.append_nil]

/-- A search gives the levels before an empty one, wherever that is. -/
theorem search_eq_levels_before {ids : List NodeId} (h : ∀ id ∈ ids, a.DepthLE a.size id)
    {depth : Nat} (hd : a.level ids depth = []) (test : Node → Bool) :
    a.search test ids = ((List.range depth).flatMap (a.level ids)).filter (a.passes test) := by
  have hsize := level_eq_nil_of_depthLE a.size h
  rw [search_eq_levels]
  rcases Nat.le_total depth (a.size + 1) with hle | hle
  · rw [flatMap_level_of_le hd hle]
  · rw [flatMap_level_of_le hsize hle]

theorem AcyclicFrom.depthLE_of_mem_singleton {r : NodeId} (h : a.AcyclicFrom r) :
    ∀ id ∈ [r], a.DepthLE a.size id := by
  intro id hid
  rw [List.mem_singleton.mp hid]
  exact h.depthLE

/-- The levels from a node end, at the latest with the size of the arena. -/
theorem AcyclicFrom.level_eq_nil {r : NodeId} (h : a.AcyclicFrom r) :
    a.level [r] (a.size + 1) = [] :=
  level_eq_nil_of_depthLE a.size h.depthLE_of_mem_singleton

theorem AcyclicFrom.find_eq_levels_before {r : NodeId} (h : a.AcyclicFrom r) {depth : Nat}
    (hd : a.level [r] depth = []) (test : Node → Bool) :
    a.find (some r) test = ((List.range depth).flatMap (a.level [r])).filter (a.passes test) :=
  search_eq_levels_before h.depthLE_of_mem_singleton hd test

/-- A search finds the node that it starts from, if that passes the test, and then what it finds
below. -/
theorem find_some_eq_append {r : NodeId} (h : a.AcyclicFrom r) (test : Node → Bool) :
    a.find (some r) test = [r].filter (a.passes test) ++ a.findBelow r test := by
  have ended : a.level [r] (a.size + 2) = [] := level_eq_nil_of_le h.level_eq_nil (Nat.le_succ _)
  have first : List.range (a.size + 2) = 0 :: (List.range (a.size + 1)).map Nat.succ :=
    List.range_succ_eq_map
  rw [h.find_eq_levels_before ended, findBelow_eq_levels, first, List.flatMap_cons,
    List.flatMap_map, List.filter_append, level, filter_passes_inRange]

theorem mem_search {ids : List NodeId} {x : NodeId} (h : x ∈ a.search test ids) :
    ∃ n, a.get? x = some n ∧ test n = true := by
  rw [search_eq_levels] at h
  exact passes_eq_true.mp (List.mem_filter.mp h).2

/-- **A search gives the levels in order**, as long as there are any: all ids of all levels whose
nodes pass the test, where an id stands once for each path to it. Below a node, the levels begin
with its children. -/
theorem find_eq_levels {r : NodeId} (h : a.AcyclicFrom r) (test : Node → Bool) :
    (∃ depth, a.level [r] depth = []) ∧
    ∀ depth, a.level [r] depth = [] →
      (∀ k, depth ≤ k → a.level [r] k = []) ∧
      a.find (some r) test =
        ((List.range depth).flatMap fun k => a.level [r] k).filter (a.passes test) ∧
      a.findBelow r test =
        ((List.range depth).flatMap fun k => a.level [r] (k + 1)).filter (a.passes test) ∧
      ∀ x, x ∈ a.find (some r) test ∨ x ∈ a.findBelow r test →
        ∃ n, a.get? x = some n ∧ test n = true := by
  have children : ∀ c ∈ a.childIds r, a.DepthLE a.size c := fun c hc => (h.child hc).depthLE
  have below : ∀ k, a.level [r] (k + 1) = a.level (a.childIds r) k := fun k => by
    rw [level_succ, List.flatMap_singleton]
  refine ⟨⟨a.size + 1, h.level_eq_nil⟩, fun depth hd => ⟨?_, ?_, ?_, ?_⟩⟩
  · exact fun k hk => level_eq_nil_of_le hd hk
  · exact h.find_eq_levels_before hd test
  · have hd' : a.level (a.childIds r) depth = [] := by
      rw [← below]
      exact level_eq_nil_of_le hd (Nat.le_succ depth)
    simp only [below]
    exact search_eq_levels_before children hd' test
  · rintro x (hx | hx)
    · exact mem_search hx
    · exact mem_search hx

/-- A text below two nodes, one of which is listed twice, with an id out of range between them. -/
def crossed : Arena where
  nodes := #[{ Node.element "p" [] with children := [1, 9, 2, 1] },
    { Node.element "b" [] with children := [3] }, { Node.element "i" [] with children := [3, 4] },
    Node.text "x", Node.comment "y"]
  root := some 0

theorem find_eq_levels_crossed :
    crossed.AcyclicFrom 0 ∧ crossed.level [0] 3 = [] ∧
      crossed.find (some 0) Node.isText = [3, 3, 3] ∧
      crossed.findBelow 0 (fun n => n.kind ≠ .text) = [1, 2, 1, 4] := by
  have h : crossed.AcyclicFrom 0 := (acyclic_of_later (by decide)).acyclicFrom 0
  have hd : crossed.level [0] 3 = [] := by decide
  obtain ⟨-, texts, -⟩ := (find_eq_levels h Node.isText).2 3 hd
  obtain ⟨-, -, others, -⟩ := (find_eq_levels h fun n => n.kind ≠ .text).2 3 hd
  exact ⟨h, hd, texts.trans (by decide), others.trans (by decide)⟩

end Arena
end MarkupSearch
