/-
# Arenas with nodes left out

When nodes are left out of an arena and the others close up, each node that stays gets the number of
those that stay before it as its id, and the links follow (`Arena.thinned`). Ids so ascend as they
did. When what is left out lists no children, nothing that stays is out of reach for it: each level
of the thinned arena is the level of the arena without the ids that are left out, and so what any
selector leads to is what it led to, without these ids and renumbered (`Arena.query_thinned`).

Key definitions: `Arena.rank`, `Arena.newId`, `Arena.relinked`, `Arena.thinned`.
Key theorems: `Arena.get?_thinned`, `Arena.newId_lt_newId`, `Arena.exists_newId_eq`,
`Arena.level_thinned`, `Arena.query_thinned`.
-/
import MarkupSearch.Proofs.Chaining

namespace MarkupSearch

/-! ### Places among the values that stay -/

section Places

variable {α : Type} {p : α → Bool} {xs : List α} {i j : Nat} {x : α}

theorem countP_take_succ (hx : xs[i]? = some x) :
    (xs.take (i + 1)).countP p = (xs.take i).countP p + if p x then 1 else 0 := by
  rw [List.take_add_one, hx, Option.toList_some, List.countP_append, List.countP_singleton]

theorem countP_take_lt_of_lt (hx : xs[i]? = some x) (hp : p x = true) (hij : i < j) :
    (xs.take i).countP p < (xs.take j).countP p := by
  have next : (xs.take (i + 1)).countP p = (xs.take i).countP p + 1 := by
    rw [countP_take_succ hx, if_pos hp]
  have more : (xs.take (i + 1)).countP p ≤ (xs.take j).countP p :=
    (List.take_prefix_take_left hij).sublist.countP_le
  omega

/-- A value that stays stands behind as many as stay before it. -/
theorem getElem?_filter_countP_take (hx : xs[i]? = some x) (hp : p x = true) :
    (xs.filter p)[(xs.take i).countP p]? = some x := by
  obtain ⟨hi, rfl⟩ := List.getElem?_eq_some_iff.mp hx
  have parts : xs.take i ++ xs[i] :: xs.drop (i + 1) = xs := by
    rw [← List.drop_eq_getElem_cons hi, List.take_append_drop]
  have stays : xs.filter p = (xs.take i).filter p ++ xs[i] :: (xs.drop (i + 1)).filter p := by
    rw [← List.filter_cons_of_pos hp, ← List.filter_append, parts]
  rw [stays, List.countP_eq_length_filter, List.getElem?_append_right (Nat.le_refl _), Nat.sub_self,
    List.getElem?_cons_zero]

/-- Every number below that of the values that stay is the number of those before one of them. -/
theorem exists_countP_take_eq : ∀ {xs : List α} {k : Nat}, k < xs.countP p →
    ∃ i x, xs[i]? = some x ∧ p x = true ∧ (xs.take i).countP p = k
  | [], k, h => absurd h (Nat.not_lt_zero k)
  | y :: ys, k, h => by
    by_cases hy : p y = true
    · cases k with
      | zero => exact ⟨0, y, rfl, hy, rfl⟩
      | succ k =>
        rw [List.countP_cons_of_pos hy] at h
        obtain ⟨i, x, hx, hp, hk⟩ := exists_countP_take_eq (Nat.lt_of_succ_lt_succ h)
        exact ⟨i + 1, x, hx, hp, by rw [List.take_succ_cons, List.countP_cons_of_pos hy, hk]⟩
    · rw [List.countP_cons_of_neg hy] at h
      obtain ⟨i, x, hx, hp, hk⟩ := exists_countP_take_eq h
      exact ⟨i + 1, x, hx, hp, by rw [List.take_succ_cons, List.countP_cons_of_neg hy, hk]⟩

end Places

namespace Arena

variable {a : Arena} {keep : Node → Bool} {id : NodeId} {n : Node}

/-! ### Nodes that stay -/

/-- How many nodes stay before a place. -/
def rank (a : Arena) (keep : Node → Bool) (i : Nat) : Nat := (a.nodes.toList.take i).countP keep

/-- The id that a node has once others have been left out. -/
def newId (a : Arena) (keep : Node → Bool) (id : NodeId) : NodeId :=
  (a.rank keep id.toNat).toUInt32

/-- A node with the links that it has once others have been left out. -/
def relinked (a : Arena) (keep : Node → Bool) (n : Node) : Node :=
  { n with
    id := a.newId keep n.id
    parent := n.parent.map (a.newId keep)
    children := (n.children.filter (a.passes keep)).map (a.newId keep) }

/-- The nodes that stay, closed up. -/
def thinned (a : Arena) (keep : Node → Bool) : Arena where
  nodes := ((a.nodes.toList.filter keep).map (a.relinked keep)).toArray
  root := a.root.map (a.newId keep)

theorem size_thinned : (a.thinned keep).size = a.nodes.toList.countP keep := by
  rw [size, thinned, List.size_toArray, List.length_map, List.countP_eq_length_filter]

theorem getElem?_toList_of_get? (hn : a.get? id = some n) : a.nodes.toList[id.toNat]? = some n := by
  rw [Array.getElem?_toList]
  exact hn

theorem rank_lt_size_thinned (hn : a.get? id = some n) (hk : keep n = true) :
    a.rank keep id.toNat < (a.thinned keep).size := by
  have hget := getElem?_toList_of_get? hn
  have hid : id.toNat < a.nodes.toList.length := (List.getElem?_eq_some_iff.mp hget).1
  have hlt := countP_take_lt_of_lt (p := keep) hget hk hid
  rwa [List.take_length, ← size_thinned] at hlt

theorem size_thinned_le : (a.thinned keep).size ≤ a.size := by
  rw [size_thinned, size, ← Array.length_toList]
  exact List.countP_le_length

/-- Ids are numbers below the size, so they are not cut off. -/
theorem toNat_newId (hsize : a.size ≤ UInt32.size) (hn : a.get? id = some n)
    (hk : keep n = true) : (a.newId keep id).toNat = a.rank keep id.toNat := by
  have hlt := rank_lt_size_thinned hn hk
  have hle : (a.thinned keep).size ≤ a.size := size_thinned_le
  exact UInt32.toNat_ofNat_of_lt' (by omega)

/-- **A node that stays is found under its new id**, with new links. -/
theorem get?_thinned (hsize : a.size ≤ UInt32.size) (hn : a.get? id = some n)
    (hk : keep n = true) : (a.thinned keep).get? (a.newId keep id) = some (a.relinked keep n) := by
  have hget := getElem?_filter_countP_take (getElem?_toList_of_get? hn) hk
  rw [get?, toNat_newId hsize hn hk, thinned, List.getElem?_toArray, List.getElem?_map, rank, hget,
    Option.map_some]

/-- New ids ascend as the ids do. -/
theorem newId_lt_newId (hsize : a.size ≤ UInt32.size) {x y : NodeId}
    (hx : a.passes keep x = true) (hy : a.passes keep y = true) (hxy : x < y) :
    a.newId keep x < a.newId keep y := by
  obtain ⟨m, hm, hkm⟩ := passes_eq_true.mp hx
  obtain ⟨n, hn, hkn⟩ := passes_eq_true.mp hy
  rw [UInt32.lt_iff_toNat_lt, toNat_newId hsize hm hkm, toNat_newId hsize hn hkn]
  exact countP_take_lt_of_lt (getElem?_toList_of_get? hm) hkm (UInt32.lt_iff_toNat_lt.mp hxy)

theorem newId_inj (hsize : a.size ≤ UInt32.size) {x y : NodeId} (hx : a.passes keep x = true)
    (hy : a.passes keep y = true) (h : a.newId keep x = a.newId keep y) : x = y := by
  by_contra hne
  rcases UInt32.lt_or_lt_of_ne hne with hlt | hlt
  · have := newId_lt_newId hsize hx hy hlt
    rw [h] at this
    exact UInt32.lt_irrefl _ this
  · have := newId_lt_newId hsize hy hx hlt
    rw [h] at this
    exact UInt32.lt_irrefl _ this

/-- Every id of the thinned arena is a new id. -/
theorem exists_newId_eq (hsize : a.size ≤ UInt32.size) {y : NodeId}
    (hy : (a.thinned keep).InRange y) : ∃ x, a.passes keep x = true ∧ a.newId keep x = y := by
  have hlt : y.toNat < a.nodes.toList.countP keep := by
    rw [← size_thinned]
    exact hy
  obtain ⟨i, n, hn, hk, hrank⟩ := exists_countP_take_eq hlt
  have hi : i < a.size := by
    have := (List.getElem?_eq_some_iff.mp hn).1
    simpa [size] using this
  have hid : i.toUInt32.toNat = i := UInt32.toNat_ofNat_of_lt' (by omega)
  refine ⟨i.toUInt32, passes_eq_true.mpr ⟨n, ?_, hk⟩, ?_⟩
  · rw [get?, hid, ← Array.getElem?_toList]
    exact hn
  · rw [newId, hid, rank, hrank]
    exact UInt32.ofNat_toNat

/-! ### Links -/

/-- The ids that stay, renumbered. -/
def remaining (a : Arena) (keep : Node → Bool) (ids : List NodeId) : List NodeId :=
  (ids.filter (a.passes keep)).map (a.newId keep)

theorem mem_remaining {ids : List NodeId} {y : NodeId} :
    y ∈ a.remaining keep ids ↔ ∃ x ∈ ids, a.passes keep x = true ∧ a.newId keep x = y := by
  simp only [remaining, List.mem_map, List.mem_filter, and_assoc]

theorem remaining_flatMap {β : Type} (f : β → List NodeId) (xs : List β) :
    a.remaining keep (xs.flatMap f) = xs.flatMap fun x => a.remaining keep (f x) := by
  simp only [remaining, List.filter_flatMap, List.map_flatMap]

theorem childIds_thinned (hsize : a.size ≤ UInt32.size) (hid : a.passes keep id = true) :
    (a.thinned keep).childIds (a.newId keep id) = a.remaining keep (a.childIds id) := by
  obtain ⟨n, hn, hk⟩ := passes_eq_true.mp hid
  rw [childIds_of_get? (get?_thinned hsize hn hk), childIds_of_get? hn]
  rfl

theorem inRange_newId (hsize : a.size ≤ UInt32.size) (hid : a.passes keep id = true) :
    (a.thinned keep).InRange (a.newId keep id) := by
  obtain ⟨n, hn, hk⟩ := passes_eq_true.mp hid
  exact inRange_of_get? (get?_thinned hsize hn hk)

/-- Leaving nodes out closes no cycle: a way along the new links is one along the links that there
were. -/
theorem Acyclic.thinned (h : a.Acyclic) (hsize : a.size ≤ UInt32.size) :
    (a.thinned keep).Acyclic := by
  have way : ∀ {x z : NodeId}, a.passes keep x = true →
      Relation.TransGen (a.thinned keep).Lists (a.newId keep x) z →
      ∃ w, a.passes keep w = true ∧ a.newId keep w = z ∧ Relation.TransGen a.Lists x w := by
    -- one link from an id that stays
    have link : ∀ {x z : NodeId}, a.passes keep x = true →
        (a.thinned keep).Lists (a.newId keep x) z →
        ∃ w, a.passes keep w = true ∧ a.newId keep w = z ∧ a.Lists x w := by
      intro x z hx hz
      rw [Lists, childIds_thinned hsize hx] at hz
      obtain ⟨w, hw, hk, rfl⟩ := mem_remaining.mp hz
      exact ⟨w, hk, rfl, hw⟩
    intro x z hx hz
    induction hz with
    | single hz =>
      obtain ⟨w, hk, rfl, hw⟩ := link hx hz
      exact ⟨w, hk, rfl, .single hw⟩
    | tail _ hz ih =>
      obtain ⟨v, hv, rfl, hxv⟩ := ih
      obtain ⟨w, hk, rfl, hw⟩ := link hv hz
      exact ⟨w, hk, rfl, hxv.tail hw⟩
  intro y hy
  have hrange : (a.thinned keep).InRange y := by
    obtain ⟨z, hz, -⟩ := Relation.TransGen.head'_iff.mp hy
    exact inRange_of_mem_childIds hz
  obtain ⟨x, hx, rfl⟩ := exists_newId_eq hsize hrange
  obtain ⟨w, hw, heq, hxw⟩ := way hx hy
  rw [newId_inj hsize hw hx heq] at hxw
  exact h x hxw

/-! ### Searches -/

/-- Nodes may be left out without disturbing searches: no id is cut off, what is left out lists no
children, and links form no cycle. -/
structure Thinnable (a : Arena) (keep : Node → Bool) : Prop where
  size : a.size ≤ UInt32.size
  leaf : ∀ id n, a.get? id = some n → keep n = false → n.children = []
  acyclic : a.Acyclic

theorem Thinnable.childIds_eq_nil (h : a.Thinnable keep) (hid : a.passes keep id = false) :
    a.childIds id = [] := by
  cases hn : a.get? id with
  | none => exact childIds_of_get?_eq_none hn
  | some n =>
    rw [passes, hn, Option.any_some] at hid
    rw [childIds_of_get? hn, h.leaf id n hn hid]

theorem remaining_inRange (ids : List NodeId) :
    a.remaining keep (ids.filter (a.InRange ·)) = a.remaining keep ids := by
  rw [remaining, filter_passes_inRange, remaining]

theorem filter_inRange_remaining (hsize : a.size ≤ UInt32.size) (ids : List NodeId) :
    (a.remaining keep ids).filter ((a.thinned keep).InRange ·) = a.remaining keep ids := by
  rw [List.filter_eq_self]
  intro y hy
  obtain ⟨x, -, hx, rfl⟩ := mem_remaining.mp hy
  rw [decide_eq_true_eq]
  exact inRange_newId hsize hx

/-- Going on from what remains comes to what remains, when what is left out leads nowhere. -/
theorem flatMap_remaining {f g : NodeId → List NodeId}
    (hf : ∀ x, a.passes keep x = true → g (a.newId keep x) = a.remaining keep (f x))
    (hnil : ∀ x, a.passes keep x = false → f x = []) (ids : List NodeId) :
    (a.remaining keep ids).flatMap g = a.remaining keep (ids.flatMap f) := by
  have hstay : ∀ x ∈ ids.filter (a.passes keep), g (a.newId keep x) = a.remaining keep (f x) :=
    fun x hx => hf x (List.mem_filter.mp hx).2
  have hdrop : ∀ x, a.passes keep x = false → a.remaining keep (f x) = [] := fun x hx => by
    rw [hnil x hx]
    rfl
  calc (a.remaining keep ids).flatMap g
      = (ids.filter (a.passes keep)).flatMap fun x => g (a.newId keep x) := List.flatMap_map ..
    _ = (ids.filter (a.passes keep)).flatMap fun x => a.remaining keep (f x) :=
        List.flatMap_congr hstay
    _ = ids.flatMap fun x => a.remaining keep (f x) := flatMap_filter_of_nil hdrop ids
    _ = a.remaining keep (ids.flatMap f) := (remaining_flatMap f ids).symm

/-- **Levels of the thinned arena are what remains of the levels.** -/
theorem level_thinned (h : a.Thinnable keep) (ids : List NodeId) (k : Nat) :
    (a.thinned keep).level (a.remaining keep ids) k = a.remaining keep (a.level ids k) := by
  induction k with
  | zero => rw [level, level, filter_inRange_remaining h.size, remaining_inRange]
  | succ k ih =>
    rw [level, ih, level]
    refine flatMap_remaining (fun x hx => ?_) (fun x hx => ?_) _
    · rw [childIds_thinned h.size hx, filter_inRange_remaining h.size, remaining_inRange]
    · rw [h.childIds_eq_nil hx, List.filter_nil]

/-- A test that sees no links gives the same under the new ids. -/
theorem passes_thinned (hsize : a.size ≤ UInt32.size) {test : Node → Bool}
    (ht : ∀ n, test (a.relinked keep n) = test n) (hid : a.passes keep id = true) :
    (a.thinned keep).passes test (a.newId keep id) = a.passes test id := by
  obtain ⟨n, hn, hk⟩ := passes_eq_true.mp hid
  rw [passes, passes, get?_thinned hsize hn hk, hn, Option.any_some, Option.any_some, ht]

theorem filter_passes_remaining (hsize : a.size ≤ UInt32.size) {test : Node → Bool}
    (ht : ∀ n, test (a.relinked keep n) = test n) (ids : List NodeId) :
    (a.remaining keep ids).filter ((a.thinned keep).passes test) =
      a.remaining keep (ids.filter (a.passes test)) := by
  rw [remaining, remaining, List.filter_map, List.filter_filter, List.filter_filter]
  congr 1
  refine List.filter_congr fun x _ => ?_
  rw [Function.comp_apply]
  by_cases hx : a.passes keep x = true
  · rw [passes_thinned hsize ht hx, Bool.and_comm]
  · rw [Bool.not_eq_true] at hx
    rw [hx, Bool.and_false, Bool.false_and]

/-- **A search of the thinned arena finds what remains of what was found.** -/
theorem search_thinned (h : a.Thinnable keep) {test : Node → Bool}
    (ht : ∀ n, test (a.relinked keep n) = test n) (ids : List NodeId) :
    (a.thinned keep).search test (a.remaining keep ids) = a.remaining keep (a.search test ids) := by
  have acyclic : (a.thinned keep).Acyclic := h.acyclic.thinned h.size
  have levels : (List.range (a.size + 1)).flatMap ((a.thinned keep).level (a.remaining keep ids)) =
      a.remaining keep ((List.range (a.size + 1)).flatMap (a.level ids)) := by
    rw [funext (level_thinned h ids), remaining_flatMap]
  -- where the levels of the arena end, those of the thinned one have ended too
  have ended : (a.thinned keep).level (a.remaining keep ids) (a.size + 1) = [] := by
    have none : a.level ids (a.size + 1) = [] :=
      level_eq_nil_of_depthLE a.size fun x _ => (h.acyclic.acyclicFrom x).depthLE
    rw [level_thinned h, none]
    rfl
  rw [search_eq_levels_before (fun x _ => (acyclic.acyclicFrom x).depthLE) ended, search_eq_levels,
    ← filter_passes_remaining h.size ht, levels]

theorem findBelow_thinned (h : a.Thinnable keep) {test : Node → Bool}
    (ht : ∀ n, test (a.relinked keep n) = test n) (hid : a.passes keep id = true) :
    (a.thinned keep).findBelow (a.newId keep id) test = a.remaining keep (a.findBelow id test) := by
  rw [findBelow, childIds_thinned h.size hid, search_thinned h ht, findBelow]

/-- No stage sees links. -/
theorem accepts_relinked (s : Stage) (n : Node) : s.accepts (a.relinked keep n) = s.accepts n :=
  s.accepts_links n _ _ _

theorem followFrom_thinned (h : a.Thinnable keep) (stages : List Stage) :
    ∀ working : List NodeId, (a.thinned keep).followFrom stages (a.remaining keep working) =
      a.remaining keep (a.followFrom stages working) := by
  induction stages with
  | nil => exact fun working => rfl
  | cons s stages ih =>
    intro working
    have next : ((a.remaining keep working).flatMap fun x =>
        (a.thinned keep).findBelow x s.accepts) =
        a.remaining keep (working.flatMap fun x => a.findBelow x s.accepts) := by
      refine flatMap_remaining (fun x hx => ?_) (fun x hx => ?_) working
      · exact findBelow_thinned h (accepts_relinked s) hx
      · rw [findBelow, h.childIds_eq_nil hx, search_nil]
    rw [followFrom_cons, next, ih, followFrom_cons]

/-- **A selector leads to what remains of where it led to**, from any node that stays. -/
theorem query_thinned (h : a.Thinnable keep) (hid : a.passes keep id = true) (selector : String) :
    (a.thinned keep).query (some (a.newId keep id)) selector =
      a.remaining keep (a.query (some id) selector) := by
  have root : [a.newId keep id] = a.remaining keep [id] := by
    rw [remaining, List.filter_cons_of_pos hid]
    rfl
  by_cases hs : (Selector.parse selector).stages = []
  · rw [query_of_stages_eq_nil hs, query_of_stages_eq_nil hs]
    rfl
  · rw [query_of_stages_ne_nil hs, query_of_stages_ne_nil hs, follow, follow, Option.toList_some,
      Option.toList_some, root]
    exact followFrom_thinned h _ [id]

end Arena
end MarkupSearch
