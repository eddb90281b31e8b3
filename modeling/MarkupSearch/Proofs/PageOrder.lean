/-
# The two orders of a page

Ids number a page in pre-order, so from the root down document order is the order of the ids. A
search goes level by level instead: what it finds is ordered by depth, and within one depth by id
again. Of two places with equally many places above them none is below the other, so all that is
below the one comes before all that is below the other (`Tree.number_concat_lt_concat`); the ids of
a level therefore ascend (`Numbers.level_pairwise_lt`), by induction on the level.

Key definitions: `Arena.ancestor`, `Visitor.note`.
Key theorems: `Arena.Numbers.level_pairwise_lt`, `Arena.Numbers.ancestor_eq_root_iff`,
`Loader.loadWith_orders`.
-/
import MarkupSearch.Proofs.LevelOrder
import MarkupSearch.Proofs.Page

namespace MarkupSearch

/-- What is right below two places with equally many places above them is ordered as the places
are. -/
theorem Tree.number_concat_lt_concat {t u v : Tree} {p q : List Nat} (hp : t.at? p = some u)
    (hq : t.at? q = some v) (hlen : p.length = q.length) (hpq : t.number p < t.number q) {i j : Nat}
    {w : Tree} (hi : t.at? (p ++ [i]) = some w) : t.number (p ++ [i]) < t.number (q ++ [j]) := by
  have below : t.number (p ++ [i]) < t.number p + u.size := by
    rw [at?_append hp] at hi
    rw [number_append hp]
    have := number_lt_size hi
    omega
  have above : t.number q < t.number (q ++ [j]) := by
    rw [number_concat hq]
    omega
  have := v.size_pos
  rcases below_or_apart hp hq with hb | hb | ha | ha
  · rw [hb.eq_of_length hlen] at hpq
    exact absurd hpq (Nat.lt_irrefl _)
  · rw [hb.eq_of_length hlen.symm] at hpq
    exact absurd hpq (Nat.lt_irrefl _)
  · omega
  · omega

namespace Arena

variable {a : Arena} {t u : Tree} {path : List Nat}

/-- The id that so many steps along the links to parents lead to. -/
def ancestor (a : Arena) : Nat → NodeId → Option NodeId
  | 0, id => some id
  | k + 1, id => (a.parentId id).bind (a.ancestor k)

namespace Numbers

/-- The root is as many steps away from a place as there are places above it, and is met after no
other number of steps. -/
theorem ancestor_eq_root_iff (h : a.Numbers t) : ∀ (k : Nat) {path : List Nat} {u : Tree},
    t.at? path = some u → (a.ancestor k (t.idAt path) = some 0 ↔ k = path.length)
  | 0, path, u, hu => by
    rw [ancestor, Option.some.injEq]
    constructor
    · intro hid
      have : t.idAt path = t.idAt [] := hid
      rw [h.idAt_inj hu rfl this, List.length_nil]
    · intro hlen
      rw [List.eq_nil_of_length_eq_zero hlen.symm]
      rfl
  | k + 1, path, u, hu => by
    rw [ancestor, h.parentId_idAt hu]
    rcases List.eq_nil_or_concat' path with rfl | ⟨path, i, rfl⟩
    · simp
    · obtain ⟨v, hv, -⟩ := Tree.at?_concat_eq_some.mp hu
      rw [if_neg (by simp), List.dropLast_concat, Option.bind_some, ancestor_eq_root_iff h k hv,
        List.length_append, List.length_singleton, Nat.add_right_cancel_iff]

/-! ### Levels -/

/-- A level holds the ids of the places with so many places above them. -/
theorem mem_level_iff (h : a.Numbers t) {k : Nat} {x : NodeId} :
    x ∈ a.level [0] k ↔ ∃ path u, path.length = k ∧ t.at? path = some u ∧ t.idAt path = x := by
  induction k generalizing x with
  | zero =>
    rw [level, List.mem_filter, List.mem_singleton, decide_eq_true_eq]
    constructor
    · rintro ⟨rfl, -⟩
      exact ⟨[], t, rfl, rfl, rfl⟩
    · rintro ⟨path, u, hlen, hu, rfl⟩
      obtain rfl := List.eq_nil_of_length_eq_zero hlen
      exact ⟨rfl, h.inRange_idAt hu⟩
  | succ k ih =>
    simp only [level, List.mem_flatMap, List.mem_filter, decide_eq_true_eq, ih]
    constructor
    · rintro ⟨_, ⟨path, u, hlen, hu, rfl⟩, hx, -⟩
      obtain ⟨i, v, hv, rfl⟩ := (h.lists_idAt_iff hu).mp hx
      exact ⟨path ++ [i], v, by rw [List.length_append, hlen]; rfl, hv, rfl⟩
    · rintro ⟨path, v, hlen, hv, rfl⟩
      rcases List.eq_nil_or_concat' path with rfl | ⟨path, i, rfl⟩
      · simp at hlen
      · obtain ⟨u, hu, -⟩ := Tree.at?_concat_eq_some.mp hv
        rw [List.length_append, List.length_singleton, Nat.add_right_cancel_iff] at hlen
        exact ⟨_, ⟨path, u, hlen, hu, rfl⟩, (h.lists_idAt_iff hu).mpr ⟨i, v, hv, rfl⟩,
          h.inRange_idAt hv⟩

/-- **The ids of a level ascend.** -/
theorem level_pairwise_lt (h : a.Numbers t) (k : Nat) : (a.level [0] k).Pairwise (· < ·) := by
  induction k with
  | zero => exact (List.pairwise_singleton _ _).filter _
  | succ k ih =>
    refine List.pairwise_flatMap.mpr ⟨fun x hx => ?_, ih.imp_of_mem ?_⟩
    · obtain ⟨path, u, -, hu, rfl⟩ := h.mem_level_iff.mp hx
      exact (h.childIds_pairwise_lt hu).filter _
    · intro x y hx hy hxy c hc d hd
      obtain ⟨p, u, hp, hu, rfl⟩ := h.mem_level_iff.mp hx
      obtain ⟨q, v, hq, hv, rfl⟩ := h.mem_level_iff.mp hy
      obtain ⟨i, w, hw, rfl⟩ := (h.lists_idAt_iff hu).mp (List.mem_of_mem_filter hc)
      obtain ⟨j, z, hz, rfl⟩ := (h.lists_idAt_iff hv).mp (List.mem_of_mem_filter hd)
      rw [h.idAt_lt_idAt hu hv] at hxy
      exact (h.idAt_lt_idAt hw hz).mpr
        (Tree.number_concat_lt_concat hu hv (hp.trans hq.symm) hxy hw)

/-! ### What a search finds -/

/-- A search from the root finds all nodes that pass the test, and nothing else. -/
theorem mem_find_root_iff (h : a.Numbers t) {test : Node → Bool} {x : NodeId} :
    x ∈ a.find (some 0) test ↔ ∃ n, a.get? x = some n ∧ test n = true := by
  constructor
  · exact mem_search
  · rintro ⟨n, hn, hpass⟩
    obtain ⟨path, u, hu, rfl⟩ := h.exists_place (inRange_of_get? hn)
    -- no place has more places above it than there are numbers before its own
    have depth : path.length < a.size + 1 := by
      have := Tree.length_le_number hu
      have := Tree.number_lt_size hu
      have := h.size
      omega
    rw [find, Option.toList_some, search_eq_levels, List.mem_filter, List.mem_flatMap]
    exact ⟨⟨path.length, List.mem_range.mpr depth, h.mem_level_iff.mpr ⟨path, u, rfl, hu, rfl⟩⟩,
      passes_eq_true.mpr ⟨n, hn, hpass⟩⟩

/-- What is found is ordered by depth and then by id. -/
theorem find_root_pairwise (h : a.Numbers t) {depth : NodeId → Nat}
    (hdepth : ∀ id, a.InRange id → ∀ k, a.ancestor k id = some 0 ↔ k = depth id)
    (test : Node → Bool) :
    (a.find (some 0) test).Pairwise fun x y => depth x < depth y ∨ depth x = depth y ∧ x < y := by
  have depth_of_mem : ∀ {k : Nat} {x : NodeId}, x ∈ a.level [0] k → depth x = k := by
    intro k x hx
    obtain ⟨path, u, rfl, hu, rfl⟩ := h.mem_level_iff.mp hx
    exact ((hdepth _ (h.inRange_idAt hu) _).mp ((h.ancestor_eq_root_iff _ hu).mpr rfl)).symm
  rw [find, Option.toList_some, search_eq_levels]
  refine List.Pairwise.filter _ (List.pairwise_flatMap.mpr ⟨fun k _ => ?_, ?_⟩)
  · refine (h.level_pairwise_lt k).imp_of_mem fun hx hy hxy => Or.inr ⟨?_, hxy⟩
    rw [depth_of_mem hx, depth_of_mem hy]
  · refine List.pairwise_lt_range.imp fun hjk x hx y hy => Or.inl ?_
    rw [depth_of_mem hx, depth_of_mem hy]
    exact hjk

end Numbers
end Arena

/-! ### Notes taken on a walk -/

/-- Notes the id of each node that is visited. -/
def Visitor.note : Visitor (List NodeId) := fun n => modifyThe (List NodeId) (· ++ [n.id])

theorem Arena.Forest.visitAll_note {a : Arena} (h : a.Forest) {ids : List NodeId}
    (hids : ∀ id ∈ ids, a.InRange id) (noted : List NodeId) :
    a.visitAll .note ids noted = (.ok (), noted ++ ids) := by
  induction ids generalizing noted with
  | nil => rw [visitAll, List.append_nil]
  | cons id ids ih =>
    obtain ⟨n, hn⟩ := inRange_iff.mp (hids id List.mem_cons_self)
    have hid : n.id = id := UInt32.toNat_inj.mp (h.id _ _ hn)
    have first : a.visitOne .note id noted = (.ok (), noted ++ [id]) := by
      rw [visitOne, hn, ← hid]
      rfl
    rw [visitAll, first, goOn, ih fun c hc => hids c (List.mem_cons_of_mem _ hc),
      List.append_assoc, List.singleton_append]

namespace Loader

/-- **The two orders of a page.** On a page that could be read each node is a number of steps, its
depth, away from the root, whatever reads the document. A search from the root finds each node that
passes the test once and nothing else, by depth and within one depth by id; a walk from the root
visits all ids in ascending order. -/
theorem loadWith_orders (l : Loader) (read : List (List UInt8) → Document) (s : Source)
    (blocks : List (List UInt8)) (hread : s.readAll = .ok blocks)
    (hsize : (Import.tree l.dropBlankText (read blocks)).size ≤ UInt32.size) :
    ∃ (a : Arena) (depth : NodeId → Nat),
      l.loadWith read s = (.ok 0, { l with arena := a }) ∧
      (∀ id, a.InRange id → ∀ k, a.ancestor k id = some 0 ↔ k = depth id) ∧
      (∀ test : Node → Bool,
        (∀ id, id ∈ a.find (some 0) test ↔ ∃ n, a.get? id = some n ∧ test n = true) ∧
        (a.find (some 0) test).Nodup ∧
        (a.find (some 0) test).Pairwise fun x y =>
          depth x < depth y ∨ depth x = depth y ∧ x < y) ∧
      (∀ (σ : Type) (visit : Visitor σ) (s : σ),
        a.walk 0 visit s = a.visitAll visit ((List.range a.size).map Nat.toUInt32) s) ∧
      a.walk 0 .note [] = (.ok (), (List.range a.size).map Nat.toUInt32) := by
  obtain ⟨a, hload, h⟩ := exists_numbers l read hread hsize
  have steps : ∀ id, a.InRange id → ∃ d, ∀ k, a.ancestor k id = some 0 ↔ k = d := by
    intro id hid
    obtain ⟨path, u, hu, rfl⟩ := h.exists_place hid
    exact ⟨path.length, fun k => h.ancestor_eq_root_iff k hu⟩
  choose! depth hdepth using steps
  have acyclic := h.acyclic.acyclicFrom 0
  have walk : ∀ (σ : Type) (visit : Visitor σ) (s : σ),
      a.walk 0 visit s = a.visitAll visit ((List.range a.size).map Nat.toUInt32) s :=
    fun σ visit s => by rw [Arena.walk_eq_visitAll acyclic, h.preorder_root]
  refine ⟨a, depth, hload, hdepth, fun test => ⟨fun id => h.mem_find_root_iff, ?_, ?_⟩, walk, ?_⟩
  · refine (h.find_root_pairwise hdepth test).imp fun {x y} hxy => ?_
    rintro rfl
    rcases hxy with hlt | ⟨-, hlt⟩
    · exact absurd hlt (Nat.lt_irrefl _)
    · exact absurd hlt (UInt32.lt_irrefl _)
  · exact h.find_root_pairwise hdepth test
  · have inRange : ∀ id ∈ (List.range a.size).map Nat.toUInt32, a.InRange id := by
      intro id hid
      obtain ⟨i, hi, rfl⟩ := List.mem_map.mp hid
      obtain ⟨path, u, hu, rfl⟩ := h.place i (List.mem_range.mp hi)
      exact h.inRange_idAt hu
    rw [walk, h.forest.visitAll_note inRange, List.nil_append]

/-- A text within two elements, before one within one element. -/
def slantedPage : Document where
  children := [.part (.element "p" []) [.part (.element "b" []) [.part (.text "x") [] []] []] [],
    .part (.element "i" []) [.part (.text "y") [] []] []]

theorem loadWith_orders_slantedPage :
    Source.readAll [.octets [0x61]] = .ok [[0x61]] ∧
      (Import.tree false slantedPage).size ≤ UInt32.size ∧
      ∃ (a : Arena) (depth : NodeId → Nat),
        (Loader.new false).loadWith (fun _ => slantedPage) [.octets [0x61]] = (.ok 0, ⟨false, a⟩) ∧
        depth 5 = 2 ∧ depth 3 = 3 ∧ a.find (some 0) Node.isText = [5, 3] ∧
        a.walk 0 .note [] = (.ok (), [0, 1, 2, 3, 4, 5]) := by
  have hread : Source.readAll [.octets [0x61]] = .ok [[0x61]] := by decide
  have hsize : (Import.tree false slantedPage).size ≤ UInt32.size := by decide
  obtain ⟨a, depth, hload, hdepth, -, -, hwalk⟩ := loadWith_orders (Loader.new false)
    (fun _ => slantedPage) [.octets [0x61]] [[0x61]] hread hsize
  have ha : a = ((Loader.new false).loadWith (fun _ => slantedPage) [.octets [0x61]]).2.arena := by
    rw [hload]
  subst ha
  refine ⟨hread, hsize, _, depth, hload, ?_, ?_, ?_, hwalk.trans ?_⟩
  · exact ((hdepth 5 (by decide +kernel) 2).mp (by decide +kernel)).symm
  · exact ((hdepth 3 (by decide +kernel) 3).mp (by decide +kernel)).symm
  · decide +kernel
  · rw [show Arena.size _ = 6 by decide +kernel]
    rfl

end Loader
end MarkupSearch
