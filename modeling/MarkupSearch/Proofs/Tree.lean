/-
# Trees and their pre-order numbers

A tree has a label at its top and trees below, in order. A place in it is a path that says which of
the trees below to go on to; its number is how many labels stand before it when the labels are
written out from left to right, each before what is below it. `nodes` writes a tree out as nodes
that know each other by these numbers.

Key definitions: `Tree`, `Tree.at?`, `Tree.number`, `Tree.nodes`.
Key theorems: `Tree.exists_number_eq`, `Tree.below_or_apart`, `Tree.number_inj`,
`Tree.getElem?_nodes`.
-/
import Mathlib.Data.List.Basic
import MarkupSearch.Markup

namespace MarkupSearch

def Label.isText : Label → Bool
  | text _ => true
  | _ => false

/-- A finite ordered tree of labels. -/
inductive Tree where
  | node (label : Label) (below : List Tree)

namespace Tree

def label : Tree → Label
  | node label _ => label

/-- The trees right below the top. -/
def inner : Tree → List Tree
  | node _ below => below

mutual
/-- The number of labels in a tree. -/
def size : Tree → Nat
  | node _ below => 1 + sizeAll below

/-- The number of labels in several trees. -/
def sizeAll : List Tree → Nat
  | [] => 0
  | t :: ts => size t + sizeAll ts
end

theorem size_pos : ∀ t : Tree, 0 < t.size
  | node _ _ => by rw [size]; omega

theorem sizeAll_append : ∀ ts us : List Tree, sizeAll (ts ++ us) = sizeAll ts + sizeAll us
  | [], us => by rw [List.nil_append, sizeAll, Nat.zero_add]
  | t :: ts, us => by rw [List.cons_append, sizeAll, sizeAll, sizeAll_append ts us, Nat.add_assoc]

theorem size_le_sizeAll : ∀ {ts : List Tree} {t : Tree}, t ∈ ts → t.size ≤ sizeAll ts
  | u :: ts, t, h => by
    rw [sizeAll]
    rcases List.mem_cons.mp h with rfl | h
    · exact Nat.le_add_right _ _
    · exact Nat.le_trans (size_le_sizeAll h) (Nat.le_add_left _ _)

theorem size_lt_of_mem_inner {t u : Tree} (h : u ∈ t.inner) : u.size < t.size := by
  cases t with
  | node label below =>
    have : u.size ≤ sizeAll below := size_le_sizeAll h
    rw [size]
    omega

/-! ### Places and their numbers -/

/-- The tree at a place. -/
def at? : Tree → List Nat → Option Tree
  | t, [] => some t
  | t, i :: path =>
    match t.inner[i]? with
    | some u => u.at? path
    | none => none

/-- The pre-order number of a place: what is above it or before it comes first. -/
def number : Tree → List Nat → Nat
  | _, [] => 0
  | t, i :: path =>
    match t.inner[i]? with
    | some u => 1 + sizeAll (t.inner.take i) + u.number path
    | none => 1 + sizeAll (t.inner.take i)

theorem at?_cons_eq_some {t u : Tree} {i : Nat} {path : List Nat} :
    t.at? (i :: path) = some u ↔ ∃ v, t.inner[i]? = some v ∧ v.at? path = some u := by
  rw [at?]
  cases t.inner[i]? <;> simp

theorem number_cons {t u : Tree} {i : Nat} (h : t.inner[i]? = some u) (path : List Nat) :
    t.number (i :: path) = 1 + sizeAll (t.inner.take i) + u.number path := by
  rw [number, h]

theorem number_singleton (t : Tree) (i : Nat) :
    t.number [i] = 1 + sizeAll (t.inner.take i) := by
  rw [number]
  cases t.inner[i]? <;> rfl

/-- The trees up to the one in a place take up no more than all of them do. -/
theorem sizeAll_take_add_size_le {ts : List Tree} {i : Nat} {u : Tree} (h : ts[i]? = some u) :
    sizeAll (ts.take i) + u.size ≤ sizeAll ts := by
  obtain ⟨hi, rfl⟩ := List.getElem?_eq_some_iff.mp h
  conv_rhs => rw [← List.take_append_drop i ts, List.drop_eq_getElem_cons hi]
  rw [sizeAll_append, sizeAll]
  omega

/-- The numbers from that of a place on, as many as there are labels from the place down, are all
numbers of the tree. -/
theorem number_add_size_le : ∀ {path : List Nat} {t u : Tree}, t.at? path = some u →
    t.number path + u.size ≤ t.size
  | [], t, u, h => by
    obtain rfl : t = u := Option.some.inj h
    exact Nat.le_of_eq (Nat.zero_add _)
  | i :: path, t, u, h => by
    obtain ⟨v, hv, hu⟩ := at?_cons_eq_some.mp h
    have ih := number_add_size_le hu
    have := sizeAll_take_add_size_le hv
    cases t with
    | node label below =>
      rw [number_cons hv, size]
      simp only [Tree.inner] at this ⊢
      omega

theorem number_lt_size {path : List Nat} {t u : Tree} (h : t.at? path = some u) :
    t.number path < t.size := by
  have := number_add_size_le h
  have := u.size_pos
  omega

/-- A number below the size of several trees falls into one of them. -/
theorem exists_take_add_eq : ∀ {ts : List Tree} {n : Nat}, n < sizeAll ts →
    ∃ i u j, ts[i]? = some u ∧ j < u.size ∧ sizeAll (ts.take i) + j = n
  | [], n, h => absurd h (Nat.not_lt_zero n)
  | t :: ts, n, h => by
    rcases Nat.lt_or_ge n t.size with hn | hn
    · exact ⟨0, t, n, rfl, hn, by rw [List.take_zero, sizeAll, Nat.zero_add]⟩
    · rw [sizeAll] at h
      have hrest : n - t.size < sizeAll ts := by omega
      obtain ⟨i, u, j, hu, hj, he⟩ := exists_take_add_eq hrest
      refine ⟨i + 1, u, j, hu, hj, ?_⟩
      rw [List.take_succ_cons, sizeAll]
      omega

/-- Every number below the size is that of a place. -/
theorem exists_number_eq (t : Tree) (n : Nat) (h : n < t.size) :
    ∃ path u, t.at? path = some u ∧ t.number path = n := by
  cases n with
  | zero => exact ⟨[], t, rfl, rfl⟩
  | succ n =>
    have hn : n < sizeAll t.inner := by
      cases t with
      | node label below =>
        rw [size] at h
        rw [Tree.inner]
        omega
    obtain ⟨i, u, j, hu, hj, he⟩ := exists_take_add_eq hn
    have := size_lt_of_mem_inner (List.mem_of_getElem? hu)
    obtain ⟨path, v, hv, hnum⟩ := exists_number_eq u j hj
    exact ⟨i :: path, v, at?_cons_eq_some.mpr ⟨u, hu, hv⟩, by rw [number_cons hu, hnum]; omega⟩
termination_by t.size

/-! ### Places below others, and their order -/

/-- A place below a place is a place of the tree there. -/
theorem at?_append {q : List Nat} : ∀ {p : List Nat} {t u : Tree}, t.at? p = some u →
    t.at? (p ++ q) = u.at? q
  | [], t, u, h => by
    obtain rfl : t = u := Option.some.inj h
    rfl
  | i :: p, t, u, h => by
    obtain ⟨v, hv, hu⟩ := at?_cons_eq_some.mp h
    rw [List.cons_append, at?, hv]
    exact at?_append hu

/-- A place below a place has its number there on top of the number of the place. -/
theorem number_append {q : List Nat} : ∀ {p : List Nat} {t u : Tree}, t.at? p = some u →
    t.number (p ++ q) = t.number p + u.number q
  | [], t, u, h => by
    obtain rfl : t = u := Option.some.inj h
    rw [List.nil_append, number, Nat.zero_add]
  | i :: p, t, u, h => by
    obtain ⟨v, hv, hu⟩ := at?_cons_eq_some.mp h
    rw [List.cons_append, number_cons hv, number_cons hv, number_append hu, ← Nat.add_assoc]

theorem at?_concat_eq_some {t v : Tree} {p : List Nat} {i : Nat} :
    t.at? (p ++ [i]) = some v ↔ ∃ u, t.at? p = some u ∧ u.inner[i]? = some v := by
  induction p generalizing t with
  | nil =>
    rw [List.nil_append, at?_cons_eq_some]
    simp [at?]
  | cons j p ih =>
    rw [List.cons_append, at?_cons_eq_some]
    simp only [at?_cons_eq_some, ih]
    constructor
    · rintro ⟨w, hw, u, hu, hv⟩
      exact ⟨u, ⟨w, hw, hu⟩, hv⟩
    · rintro ⟨u, ⟨w, hw, hu⟩, hv⟩
      exact ⟨w, hw, u, hu, hv⟩

theorem number_concat {t u : Tree} {p : List Nat} (h : t.at? p = some u) (i : Nat) :
    t.number (p ++ [i]) = t.number p + 1 + sizeAll (u.inner.take i) := by
  rw [number_append h, number_singleton, Nat.add_assoc]

/-- A place has at least as many labels before it as there are above it. -/
theorem length_le_number : ∀ {path : List Nat} {t u : Tree}, t.at? path = some u →
    path.length ≤ t.number path
  | [], _, _, _ => Nat.zero_le _
  | i :: path, t, u, h => by
    obtain ⟨v, hv, hu⟩ := at?_cons_eq_some.mp h
    have ih := length_le_number hu
    rw [List.length_cons, number_cons hv]
    omega

theorem sizeAll_take_add_size_le_take {ts : List Tree} {i j : Nat} {u : Tree}
    (h : ts[i]? = some u) (hij : i < j) :
    sizeAll (ts.take i) + u.size ≤ sizeAll (ts.take j) := by
  have hu : (ts.take j)[i]? = some u := by rw [List.getElem?_take_of_lt hij, h]
  have := sizeAll_take_add_size_le hu
  rwa [List.take_take, Nat.min_eq_left (Nat.le_of_lt hij)] at this

/-- **Of two places one is below the other, or all that is in the one comes before the other.** -/
theorem below_or_apart : ∀ {p q : List Nat} {t u v : Tree}, t.at? p = some u →
    t.at? q = some v →
    p <+: q ∨ q <+: p ∨ t.number p + u.size ≤ t.number q ∨ t.number q + v.size ≤ t.number p
  | [], q, _, _, _, _, _ => Or.inl List.nil_prefix
  | i :: p, [], _, _, _, _, _ => Or.inr (Or.inl List.nil_prefix)
  | i :: p, j :: q, t, u, v, hp, hq => by
    obtain ⟨u', hu', hu⟩ := at?_cons_eq_some.mp hp
    obtain ⟨v', hv', hv⟩ := at?_cons_eq_some.mp hq
    rw [number_cons hu', number_cons hv']
    rcases Nat.lt_trichotomy i j with hij | rfl | hij
    · have := sizeAll_take_add_size_le_take hu' hij
      have := number_add_size_le hu
      omega
    · obtain rfl : u' = v' := Option.some.inj (hu'.symm.trans hv')
      rcases below_or_apart hu hv with h | h | h
      · exact Or.inl (List.cons_prefix_cons.mpr ⟨rfl, h⟩)
      · exact Or.inr (Or.inl (List.cons_prefix_cons.mpr ⟨rfl, h⟩))
      · omega
    · have := sizeAll_take_add_size_le_take hv' hij
      have := number_add_size_le hv
      omega

theorem number_pos {path : List Nat} (h : path ≠ []) (t : Tree) : 0 < t.number path := by
  cases path with
  | nil => exact absurd rfl h
  | cons i path =>
    rw [number]
    split <;> omega

/-- A place is known by its number. -/
theorem number_inj {t u v : Tree} {p q : List Nat} (hp : t.at? p = some u) (hq : t.at? q = some v)
    (h : t.number p = t.number q) : p = q := by
  -- nothing but the place itself stands at no distance below a place
  have below : ∀ {p q : List Nat} {u : Tree}, t.at? p = some u → t.number p = t.number q →
      p <+: q → p = q := by
    rintro p _ u hp hn ⟨r, rfl⟩
    rw [number_append hp] at hn
    by_cases hr : r = []
    · rw [hr, List.append_nil]
    · have := number_pos hr u
      omega
  have := u.size_pos
  have := v.size_pos
  rcases below_or_apart hp hq with hb | hb | ha | ha
  · exact below hp h hb
  · exact (below hq h.symm hb).symm
  · omega
  · omega

/-! ### A tree as nodes -/

/-- The numbers of the tops of several trees that are written out from a number on. -/
def tops : Nat → List Tree → List NodeId
  | _, [] => []
  | k, t :: ts => k.toUInt32 :: tops (k + t.size) ts

mutual
/-- The nodes of a tree in pre-order, numbered from a number on. -/
def nodes (parent : Option NodeId) (k : Nat) : Tree → List Node
  | node label below =>
    { label.node with id := k.toUInt32, parent := parent, children := tops (k + 1) below } ::
      nodesAll (some k.toUInt32) (k + 1) below

/-- The nodes of several trees with one parent. -/
def nodesAll (parent : Option NodeId) (k : Nat) : List Tree → List Node
  | [] => []
  | t :: ts => nodes parent k t ++ nodesAll parent (k + t.size) ts
end

mutual
theorem length_nodes (parent : Option NodeId) (k : Nat) : ∀ t : Tree,
    (t.nodes parent k).length = t.size
  | node label below => by
    rw [nodes, size, List.length_cons, length_nodesAll _ _ below, Nat.add_comm]

theorem length_nodesAll (parent : Option NodeId) (k : Nat) : ∀ ts : List Tree,
    (nodesAll parent k ts).length = sizeAll ts
  | [] => rfl
  | t :: ts => by
    rw [nodesAll, sizeAll, List.length_append, length_nodes _ _ t, length_nodesAll _ _ ts]
end

theorem tops_append : ∀ (k : Nat) (ts us : List Tree),
    tops k (ts ++ us) = tops k ts ++ tops (k + sizeAll ts) us
  | k, [], us => by rw [sizeAll, Nat.add_zero]; rfl
  | k, t :: ts, us => by
    rw [List.cons_append, tops, tops, tops_append, sizeAll, List.cons_append, Nat.add_assoc]

theorem nodesAll_append (parent : Option NodeId) : ∀ (k : Nat) (ts us : List Tree),
    nodesAll parent k (ts ++ us) = nodesAll parent k ts ++ nodesAll parent (k + sizeAll ts) us
  | k, [], us => by rw [sizeAll, Nat.add_zero]; rfl
  | k, t :: ts, us => by
    rw [List.cons_append, nodesAll, nodesAll, nodesAll_append, sizeAll, List.append_assoc,
      Nat.add_assoc]

theorem tops_eq_map : ∀ (k : Nat) (ts : List Tree),
    tops k ts = (List.range ts.length).map fun i => (k + sizeAll (ts.take i)).toUInt32
  | k, [] => rfl
  | k, t :: ts => by
    rw [tops, List.length_cons, List.range_succ_eq_map, List.map_cons, List.map_map, tops_eq_map]
    congr 1
    refine List.map_congr_left fun i _ => ?_
    rw [Function.comp_apply, List.take_succ_cons, sizeAll, Nat.add_assoc]

/-- Where the nodes of one of several trees begin. -/
theorem getElem?_nodesAll {parent : Option NodeId} {ts : List Tree} {i k j : Nat} {u : Tree}
    (hu : ts[i]? = some u) (hj : j < u.size) :
    (nodesAll parent k ts)[sizeAll (ts.take i) + j]? =
      (u.nodes parent (k + sizeAll (ts.take i)))[j]? := by
  obtain ⟨hi, rfl⟩ := List.getElem?_eq_some_iff.mp hu
  have hlen : (nodesAll parent k (ts.take i)).length = sizeAll (ts.take i) := length_nodesAll _ _ _
  have split : ts = ts.take i ++ ts[i] :: ts.drop (i + 1) := by
    rw [← List.drop_eq_getElem_cons hi, List.take_append_drop]
  conv_lhs => rw [split, nodesAll_append]
  rw [List.take_append_of_le_length (by simp; omega), List.take_take, Nat.min_self, nodesAll,
    List.getElem?_append_right (by omega), hlen, Nat.add_sub_cancel_left,
    List.getElem?_append_left (by rw [length_nodes]; exact hj)]

/-- **The node at a place**: its number is its id, and its parent and its children go by the
numbers of their places. -/
theorem getElem?_nodes : ∀ {path : List Nat} {t u : Tree} (parent : Option NodeId) (k : Nat),
    t.at? path = some u →
    (t.nodes parent k)[t.number path]? = some
      { u.label.node with
        id := (k + t.number path).toUInt32
        parent := if path = [] then parent else some (k + t.number path.dropLast).toUInt32
        children := (List.range u.inner.length).map fun i =>
          (k + t.number (path ++ [i])).toUInt32 }
  | [], t, u, parent, k, h => by
    obtain rfl : t = u := Option.some.inj h
    cases t with
    | node label below =>
      simp [nodes, number, number_singleton, tops_eq_map, Tree.inner, Tree.label, Nat.add_assoc]
  | i :: path, t, u, parent, k, h => by
    obtain ⟨v, hv, hu⟩ := at?_cons_eq_some.mp h
    have at_v : ∀ path, k + t.number (i :: path) =
        k + 1 + sizeAll (t.inner.take i) + v.number path := fun path => by
      rw [number_cons hv]
      omega
    have hnode : (t.nodes parent k)[t.number (i :: path)]? =
        (v.nodes (some k.toUInt32) (k + 1 + sizeAll (t.inner.take i)))[v.number path]? := by
      rw [number_cons hv, ← getElem?_nodesAll hv (number_lt_size hu)]
      cases t with
      | node label below =>
        rw [nodes, Nat.add_assoc, Nat.add_comm 1 (_ + _), List.getElem?_cons_succ]
        rfl
    rw [hnode, getElem?_nodes _ _ hu]
    simp only [at_v, List.cons_append]
    rcases List.eq_nil_or_concat' path with rfl | ⟨path, j, rfl⟩
    · simp [number]
    · rw [if_neg (by simp), if_neg (by simp), List.dropLast_concat, ← List.cons_append,
        List.dropLast_concat, at_v]

end Tree
end MarkupSearch
