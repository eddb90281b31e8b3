/-
# A page by its places

In an arena that numbers a tree, every id in range is that of a place of the tree, and of one place
only. What a node lists and what it names as its parent are the ids of the places right below and
right above, so the links are those of a forest (`Numbers.forest`), and the ids from a place down,
in document order, are the numbers that follow its own (`Numbers.preorder_idAt`).

Key definition: `Tree.idAt`.
Key theorems: `Arena.Numbers.exists_place`, `Arena.Numbers.lists_iff_above`,
`Arena.Numbers.parentId_iff_above`, `Arena.Numbers.childIds_pairwise_lt`, `Arena.Numbers.forest`,
`Arena.Numbers.preorder_root`.
-/
import MarkupSearch.Proofs.DocumentOrder
import MarkupSearch.Proofs.Rendering
import MarkupSearch.Proofs.Forest
import MarkupSearch.Proofs.Numbering

namespace MarkupSearch

/-- The id of a place: its number. -/
def Tree.idAt (t : Tree) (path : List Nat) : NodeId := (t.number path).toUInt32

namespace Arena.Numbers

variable {a : Arena} {t u v : Tree} {p q path : List Nat}

/-! ### Ids and places -/

theorem toNat_idAt (h : a.Numbers t) (hu : t.at? path = some u) :
    (t.idAt path).toNat = t.number path :=
  h.id _ _ (h.node path u hu)

theorem get?_idAt (h : a.Numbers t) (hu : t.at? path = some u) :
    a.get? (t.idAt path) = some
      { u.label.node with
        id := t.idAt path
        parent := if path = [] then none else some (t.idAt path.dropLast)
        children := (List.range u.inner.length).map fun i => t.idAt (path ++ [i]) } := by
  rw [get?, h.toNat_idAt hu]
  exact h.node path u hu

theorem inRange_idAt (h : a.Numbers t) (hu : t.at? path = some u) : a.InRange (t.idAt path) :=
  inRange_of_get? (h.get?_idAt hu)

theorem childIds_idAt (h : a.Numbers t) (hu : t.at? path = some u) :
    a.childIds (t.idAt path) = (List.range u.inner.length).map fun i => t.idAt (path ++ [i]) :=
  childIds_of_get? (h.get?_idAt hu)

theorem parentId_idAt (h : a.Numbers t) (hu : t.at? path = some u) :
    a.parentId (t.idAt path) = if path = [] then none else some (t.idAt path.dropLast) := by
  rw [parentId, h.get?_idAt hu]
  rfl

/-- Every id in range is that of a place. -/
theorem exists_place (h : a.Numbers t) {id : NodeId} (hid : a.InRange id) :
    ∃ path u, t.at? path = some u ∧ t.idAt path = id := by
  obtain ⟨path, u, hu, hnum⟩ := h.place id.toNat hid
  refine ⟨path, u, hu, UInt32.toNat_inj.mp ?_⟩
  rw [h.toNat_idAt hu, hnum]

theorem idAt_inj (h : a.Numbers t) (hp : t.at? p = some u) (hq : t.at? q = some v)
    (hpq : t.idAt p = t.idAt q) : p = q := by
  refine Tree.number_inj hp hq ?_
  rw [← h.toNat_idAt hp, ← h.toNat_idAt hq, hpq]

/-- What a node lists are the places right below its own. -/
theorem lists_idAt_iff (h : a.Numbers t) (hu : t.at? path = some u) {c : NodeId} :
    a.Lists (t.idAt path) c ↔
      ∃ i v, t.at? (path ++ [i]) = some v ∧ t.idAt (path ++ [i]) = c := by
  rw [Lists, h.childIds_idAt hu, List.mem_map]
  constructor
  · rintro ⟨i, hi, rfl⟩
    have hv := List.getElem?_eq_getElem (List.mem_range.mp hi)
    exact ⟨i, _, Tree.at?_concat_eq_some.mpr ⟨u, hu, hv⟩, rfl⟩
  · rintro ⟨i, v, hv, rfl⟩
    obtain ⟨w, hw, hv⟩ := Tree.at?_concat_eq_some.mp hv
    obtain rfl : u = w := Option.some.inj (hu.symm.trans hw)
    exact ⟨i, List.mem_range.mpr (List.getElem?_eq_some_iff.mp hv).1, rfl⟩

/-- One node lists another when its place is right above the other's. -/
theorem lists_iff_above (h : a.Numbers t) {x c : NodeId} :
    a.Lists x c ↔ ∃ path i v, t.at? (path ++ [i]) = some v ∧ t.idAt path = x ∧
      t.idAt (path ++ [i]) = c := by
  constructor
  · intro hc
    obtain ⟨path, u, hu, rfl⟩ := h.exists_place (inRange_of_mem_childIds hc)
    obtain ⟨i, v, hv, rfl⟩ := (h.lists_idAt_iff hu).mp hc
    exact ⟨path, i, v, hv, rfl, rfl⟩
  · rintro ⟨path, i, v, hv, rfl, rfl⟩
    obtain ⟨u, hu, -⟩ := Tree.at?_concat_eq_some.mp hv
    exact (h.lists_idAt_iff hu).mpr ⟨i, v, hv, rfl⟩

/-- A node names another as its parent when the other's place is right above its own. -/
theorem parentId_iff_above (h : a.Numbers t) {x c : NodeId} :
    a.parentId c = some x ↔ ∃ path i v, t.at? (path ++ [i]) = some v ∧ t.idAt path = x ∧
      t.idAt (path ++ [i]) = c := by
  constructor
  · intro hx
    obtain ⟨n, hn, -⟩ := Option.bind_eq_some_iff.mp hx
    obtain ⟨path, v, hv, rfl⟩ := h.exists_place (inRange_of_get? hn)
    rw [h.parentId_idAt hv] at hx
    rcases List.eq_nil_or_concat' path with rfl | ⟨path, i, rfl⟩
    · simp at hx
    · rw [if_neg (by simp), List.dropLast_concat, Option.some.injEq] at hx
      exact ⟨path, i, v, hv, hx, rfl⟩
  · rintro ⟨path, i, v, hv, rfl, rfl⟩
    rw [h.parentId_idAt hv, if_neg (by simp), List.dropLast_concat]

/-! ### The links of a page -/

theorem acyclic (h : a.Numbers t) : a.Acyclic := by
  refine acyclic_of_later fun i hi => List.all_eq_true.mpr fun c hc => ?_
  obtain ⟨path, u, hu, rfl⟩ := h.place i hi
  have hnode : a.get? (t.idAt path) = some a.nodes[t.number path] := by
    rw [get?, h.toNat_idAt hu]
    exact Array.getElem?_eq_getElem hi
  obtain ⟨j, v, hv, rfl⟩ := (h.lists_idAt_iff hu).mp (lists_of_mem_children hnode hc)
  rw [decide_eq_true_eq, h.toNat_idAt hv, Tree.number_concat hu]
  omega

theorem idAt_lt_idAt (h : a.Numbers t) {p q : List Nat} {u v : Tree} (hp : t.at? p = some u)
    (hq : t.at? q = some v) : t.idAt p < t.idAt q ↔ t.number p < t.number q := by
  rw [UInt32.lt_iff_toNat_lt, h.toNat_idAt hp, h.toNat_idAt hq]

/-- The ids that a node lists ascend. -/
theorem childIds_pairwise_lt (h : a.Numbers t) (hu : t.at? path = some u) :
    (a.childIds (t.idAt path)).Pairwise (· < ·) := by
  rw [h.childIds_idAt hu]
  refine List.pairwise_map.mpr (List.pairwise_lt_range.imp_of_mem ?_)
  intro i j hi hj hij
  obtain ⟨v, hv⟩ : ∃ v, u.inner[i]? = some v :=
    ⟨_, List.getElem?_eq_getElem (List.mem_range.mp hi)⟩
  obtain ⟨w, hw⟩ : ∃ w, u.inner[j]? = some w :=
    ⟨_, List.getElem?_eq_getElem (List.mem_range.mp hj)⟩
  rw [h.idAt_lt_idAt (Tree.at?_concat_eq_some.mpr ⟨u, hu, hv⟩)
    (Tree.at?_concat_eq_some.mpr ⟨u, hu, hw⟩), Tree.number_concat hu, Tree.number_concat hu]
  have := Tree.sizeAll_take_add_size_le_take hv hij
  have := v.size_pos
  omega

/-- **The links of a page are those of a forest.** -/
theorem forest (h : a.Numbers t) : a.Forest where
  id := h.id
  child_inRange x c hc := by
    obtain ⟨path, i, v, hv, -, rfl⟩ := h.lists_iff_above.mp hc
    exact h.inRange_idAt hv
  parent_inRange c x hx := by
    obtain ⟨path, i, v, hv, rfl, -⟩ := h.parentId_iff_above.mp hx
    obtain ⟨u, hu, -⟩ := Tree.at?_concat_eq_some.mp hv
    exact h.inRange_idAt hu
  root_inRange r hr := by
    obtain rfl : 0 = r := Option.some.inj (h.root.symm.trans hr)
    exact h.inRange_idAt (show t.at? [] = some t from rfl)
  lists_iff x c := h.lists_iff_above.trans h.parentId_iff_above.symm
  nodup x := by
    by_cases hx : a.InRange x
    · obtain ⟨path, u, hu, rfl⟩ := h.exists_place hx
      exact (h.childIds_pairwise_lt hu).imp UInt32.ne_of_lt
    · rw [childIds_of_not_inRange hx]
      exact List.nodup_nil
  acyclic := h.acyclic

/-! ### Document order -/

/-- What the ids of several trees come to, one after the other, when each comes to the numbers of
its own labels. -/
theorem flatten_preorder_tops : ∀ (ts : List Tree) (k : Nat)
    (hts : ∀ c ∈ Tree.tops k ts, a.AcyclicFrom c),
    (∀ i u n, ts[i]? = some u → n = k + Tree.sizeAll (ts.take i) → ∀ h,
      a.preorder n.toUInt32 h = (List.range' n u.size).map Nat.toUInt32) →
    ((Tree.tops k ts).pmap a.preorder hts).flatten =
      (List.range' k (Tree.sizeAll ts)).map Nat.toUInt32
  | [], _, _, _ => rfl
  | t :: ts, k, hts, each => by
    have rest := flatten_preorder_tops ts (k + t.size)
      (fun c hc => hts c (List.mem_cons_of_mem _ hc)) fun i u n hu hn =>
        each (i + 1) u n hu (by rw [hn, List.take_succ_cons, Tree.sizeAll, Nat.add_assoc])
    change a.preorder k.toUInt32 (hts _ List.mem_cons_self) ++ _ = _
    rw [each 0 t k rfl rfl, rest, ← List.map_append, List.range'_append_1, Tree.sizeAll]

/-- The ids from a place down, in document order, are its number and those that follow. -/
theorem preorder_idAt (h : a.Numbers t) (u : Tree) (path : List Nat) (hu : t.at? path = some u)
    (hid : a.AcyclicFrom (t.idAt path)) :
    a.preorder (t.idAt path) hid = (List.range' (t.number path) u.size).map Nat.toUInt32 := by
  have children : a.childIds (t.idAt path) = Tree.tops (t.number path + 1) u.inner := by
    rw [h.childIds_idAt hu, Tree.tops_eq_map]
    simp only [Tree.idAt, Tree.number_concat hu]
  have below := flatten_preorder_tops u.inner (t.number path + 1)
    (fun c hc => hid.child (show c ∈ a.childIds _ from children ▸ hc)) fun i v n hv hn hc => by
      have := Tree.size_lt_of_mem_inner (List.mem_of_getElem? hv)
      rw [← Tree.number_concat hu] at hn
      subst hn
      exact preorder_idAt h v (path ++ [i]) (Tree.at?_concat_eq_some.mpr ⟨u, hu, hv⟩) hc
  have size : u.size = Tree.sizeAll u.inner + 1 := by
    cases u with
    | node label below => rw [Tree.size, Tree.inner, Nat.add_comm]
  rw [preorder_eq, size, List.range'_succ, List.map_cons]
  simp only [children, below]
  rfl
termination_by u.size

/-- **From the root down, document order is the order of the ids.** -/
theorem preorder_root (h : a.Numbers t) (hid : a.AcyclicFrom 0) :
    a.preorder 0 hid = (List.range a.size).map Nat.toUInt32 := by
  rw [h.size, List.range_eq_range']
  exact h.preorder_idAt t [] rfl hid

end Arena.Numbers

/-- A page that could be read numbers the tree of its document. -/
theorem Loader.exists_numbers (l : Loader) (read : List (List UInt8) → Document) {s : Source}
    {blocks : List (List UInt8)} (hread : s.readAll = .ok blocks)
    (hsize : (Import.tree l.dropBlankText (read blocks)).size ≤ UInt32.size) :
    ∃ a : Arena, l.loadWith read s = (.ok 0, { l with arena := a }) ∧
      a.Numbers (Import.tree l.dropBlankText (read blocks)) :=
  ⟨_, l.loadWith_of_readAll read hread hsize, Arena.numbers_nodes hsize⟩

end MarkupSearch
