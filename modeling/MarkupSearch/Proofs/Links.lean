/-
# Child links, the paths along them, and cycles

A path is given by the places it takes in the lists of children, so two paths through different
places of one list are different even when they meet the same nodes. On links without a cycle a
path meets no node twice, so no path has more links than the arena has nodes
(`AcyclicFrom.depthLE`): the reach with which a visit starts out (`Arena.visits`) cuts nothing off.
The bound is found by counting the nodes that a path has left behind. On a cycle there are paths of
any length (`DepthLE.acyclicFrom`), so looking that far decides whether a cycle can be reached.

Key definitions: `Arena.Lists`, `Arena.Acyclic`, `Arena.AcyclicFrom`, `Arena.goTo?`,
`Arena.DepthLE`.
Key theorems: `Arena.AcyclicFrom.depthLE`, `Arena.DepthLE.acyclicFrom`,
`Arena.length_le_of_goTo?`, `Arena.acyclic_of_later`.
-/
import Mathlib.Logic.Relation
import Mathlib.Data.Finset.Card
import MarkupSearch.Arena.Paths

namespace MarkupSearch
namespace Arena

variable {a : Arena}

/-- There is a node with this id. -/
def InRange (a : Arena) (id : NodeId) : Prop := id.toNat < a.size

instance (a : Arena) (id : NodeId) : Decidable (a.InRange id) :=
  inferInstanceAs (Decidable (id.toNat < a.size))

theorem inRange_iff {id : NodeId} : a.InRange id ↔ ∃ n, a.get? id = some n := by
  simp [InRange, get?, size, Array.getElem?_eq_some_iff]

theorem inRange_of_get? {id : NodeId} {n : Node} (h : a.get? id = some n) : a.InRange id :=
  inRange_iff.mpr ⟨n, h⟩

theorem get?_eq_none_iff {id : NodeId} : a.get? id = none ↔ ¬ a.InRange id := by
  rw [inRange_iff, not_exists, Option.eq_none_iff_forall_ne_some]

theorem childIds_of_get?_eq_none {id : NodeId} (h : a.get? id = none) : a.childIds id = [] := by
  simp [childIds, h]

theorem inRange_of_mem_childIds {id c : NodeId} (h : c ∈ a.childIds id) : a.InRange id := by
  rw [inRange_iff]
  cases hn : a.get? id with
  | none => simp [childIds, hn] at h
  | some n => exact ⟨n, rfl⟩

theorem childIds_of_not_inRange {id : NodeId} (h : ¬ a.InRange id) : a.childIds id = [] :=
  List.eq_nil_iff_forall_not_mem.mpr fun _ hc => h (inRange_of_mem_childIds hc)

/-! ### Links and cycles -/

/-- One node lists an id among its children. -/
def Lists (a : Arena) (p c : NodeId) : Prop := c ∈ a.childIds p

/-- No cycle of child links. -/
def Acyclic (a : Arena) : Prop := ∀ id, ¬ Relation.TransGen a.Lists id id

/-- No cycle of child links can be reached from here. -/
def AcyclicFrom (a : Arena) (start : NodeId) : Prop :=
  ∀ id, Relation.ReflTransGen a.Lists start id → ¬ Relation.TransGen a.Lists id id

theorem Acyclic.acyclicFrom (h : a.Acyclic) (start : NodeId) : a.AcyclicFrom start :=
  fun id _ => h id

theorem AcyclicFrom.child {p c : NodeId} (h : a.AcyclicFrom p) (hc : a.Lists p c) :
    a.AcyclicFrom c :=
  fun id hid => h id (hid.head hc)

/-- Where no child reaches a cycle, no cycle can be reached: one through the id itself would go
through a child. -/
theorem acyclicFrom_of_children {id : NodeId} (h : ∀ c, a.Lists id c → a.AcyclicFrom c) :
    a.AcyclicFrom id := by
  intro x hx hcycle
  rcases Relation.ReflTransGen.cases_head hx with rfl | ⟨c, hc, hcx⟩
  · obtain ⟨c, hc, hback⟩ := Relation.TransGen.head'_iff.mp hcycle
    exact h c hc c .refl (.tail' hback hc)
  · exact h c hc x hcx hcycle

/-- What is true of each child that each node lists, by its place, is true of every link. -/
theorem of_lists {P : Nat → NodeId → Bool}
    (h : ∀ (i : Nat) (hi : i < a.nodes.size), a.nodes[i].children.all (P i)) {p c : NodeId}
    (hc : a.Lists p c) : P p.toNat c = true := by
  have hp : p.toNat < a.nodes.size := inRange_of_mem_childIds hc
  have hc : c ∈ a.nodes[p.toNat].children := by simpa [Lists, childIds, get?, hp] using hc
  exact List.all_eq_true.mp (h p.toNat hp) c hc

/-- Links that all lead to later ids form no cycle. -/
theorem acyclic_of_later
    (h : ∀ (i : Nat) (hi : i < a.nodes.size), a.nodes[i].children.all fun c => i < c.toNat) :
    a.Acyclic := by
  have later : ∀ {p c : NodeId}, a.Lists p c → p.toNat < c.toNat :=
    fun hc => of_decide_eq_true (of_lists h hc)
  intro id hid
  have : ∀ {x y : NodeId}, Relation.TransGen a.Lists x y → x.toNat < y.toNat := by
    intro x y hxy
    induction hxy with
    | single hc => exact later hc
    | tail _ hc ih => exact ih.trans (later hc)
  exact (this hid).false

/-! ### How far a path can go -/

/-- No path from an id has more links than this. -/
def DepthLE (a : Arena) : Nat → NodeId → Prop
  | 0, id => a.childIds id = []
  | links + 1, id => ∀ c ∈ a.childIds id, a.DepthLE links c

/-- The nodes left behind on the way to an id are different ones, so when `links` of all nodes are
not yet left behind no more than `links` links can follow. -/
theorem depthLE_of_left_behind (links : Nat) : ∀ (id : NodeId) (left : Finset Nat),
    a.AcyclicFrom id → left ⊆ Finset.range a.size →
    (∀ k ∈ left, ∃ s : NodeId, s.toNat = k ∧ Relation.TransGen a.Lists s id) →
    left.card + links = a.size → a.DepthLE links id := by
  -- an id that was left behind lies on a cycle
  have fresh : ∀ (id : NodeId) (left : Finset Nat), a.AcyclicFrom id →
      (∀ k ∈ left, ∃ s : NodeId, s.toNat = k ∧ Relation.TransGen a.Lists s id) →
      id.toNat ∉ left := by
    intro id left h behind hid
    obtain ⟨s, hs, hsid⟩ := behind _ hid
    rw [UInt32.toNat_inj] at hs
    exact h id .refl (hs ▸ hsid)
  induction links with
  | zero =>
    intro id left h sub behind card
    refine childIds_of_not_inRange fun hid => fresh id left h behind ?_
    have all : left = Finset.range a.size :=
      Finset.eq_of_subset_of_card_le sub (by simp [← card])
    rw [all, Finset.mem_range]
    exact hid
  | succ links ih =>
    intro id left h sub behind card c hc
    have hnew := fresh id left h behind
    refine ih c (insert id.toNat left) (h.child hc) ?_ ?_ ?_
    · refine Finset.insert_subset ?_ sub
      rw [Finset.mem_range]
      exact inRange_of_mem_childIds hc
    · intro k hk
      rcases Finset.mem_insert.mp hk with rfl | hk
      · exact ⟨id, rfl, .single hc⟩
      · obtain ⟨s, hs, hsid⟩ := behind k hk
        exact ⟨s, hs, hsid.tail hc⟩
    · rw [Finset.card_insert_of_notMem hnew]
      omega

/-- **No path has more links than there are nodes**, where no cycle can be reached. -/
theorem AcyclicFrom.depthLE {id : NodeId} (h : a.AcyclicFrom id) : a.DepthLE a.size id :=
  depthLE_of_left_behind a.size id ∅ h (Finset.empty_subset _) (by simp) (by simp)

theorem DepthLE.acc {links : Nat} : ∀ {id : NodeId}, a.DepthLE links id →
    Acc (fun c p => a.Lists p c) id := by
  induction links with
  | zero =>
    intro id h
    refine ⟨id, fun c hc => ?_⟩
    rw [Lists, show a.childIds id = [] from h] at hc
    simp at hc
  | succ links ih => exact fun {id} h => ⟨id, fun c hc => ih (h c hc)⟩

theorem DepthLE.acyclicFrom {links : Nat} : ∀ {id : NodeId}, a.DepthLE links id →
    a.AcyclicFrom id := by
  induction links with
  | zero =>
    intro id h
    refine acyclicFrom_of_children fun c hc => ?_
    rw [Lists, show a.childIds id = [] from h] at hc
    simp at hc
  | succ links ih => exact fun {id} h => acyclicFrom_of_children fun c hc => ih (h c hc)

-- the children are gone through; an instance that is searched for may go through all ids there are
instance decidableDepthLE (a : Arena) : ∀ links : Nat, DecidablePred (a.DepthLE links)
  | 0, id => inferInstanceAs (Decidable (a.childIds id = []))
  | links + 1, id =>
    have := a.decidableDepthLE links
    List.decidableBAll (a.DepthLE links) (a.childIds id)

instance (a : Arena) (id : NodeId) : Decidable (a.AcyclicFrom id) :=
  decidable_of_iff (a.DepthLE a.size id) ⟨DepthLE.acyclicFrom, AcyclicFrom.depthLE⟩

/-- What is said of an id by way of its children comes to an end where no cycle can be reached. -/
instance : WellFoundedRelation {id : NodeId // a.AcyclicFrom id} where
  rel c p := a.Lists p.1 c.1
  wf := ⟨fun x =>
    InvImage.accessible (fun y : {id : NodeId // a.AcyclicFrom id} => y.1) x.2.depthLE.acc⟩

/-! ### Paths -/

/-- The node that a path leads to from an id. The path names a place in the list of children of
each node that it goes on from; all nodes on it, the last one too, are in range. -/
def goTo? (a : Arena) : NodeId → List Nat → Option NodeId
  | id, [] => if a.InRange id then some id else none
  | id, i :: path =>
    match (a.childIds id)[i]? with
    | some c => a.goTo? c path
    | none => none

theorem goTo?_cons_eq_some {id x : NodeId} {i : Nat} {path : List Nat} :
    a.goTo? id (i :: path) = some x ↔
      ∃ c, (a.childIds id)[i]? = some c ∧ a.goTo? c path = some x := by
  rw [goTo?]
  cases (a.childIds id)[i]? <;> simp

/-- A path may be taken one link further. -/
theorem goTo?_snoc_eq_some {i : Nat} {path : List Nat} : ∀ {id x : NodeId},
    a.goTo? id (path ++ [i]) = some x ↔
      ∃ y, a.goTo? id path = some y ∧ (a.childIds y)[i]? = some x ∧ a.InRange x := by
  induction path with
  | nil =>
    intro id x
    rw [List.nil_append, goTo?_cons_eq_some]
    simp only [goTo?, Option.ite_none_right_eq_some, Option.some.injEq]
    constructor
    · rintro ⟨c, hc, hr, rfl⟩
      exact ⟨id, ⟨inRange_of_mem_childIds (List.mem_of_getElem? hc), rfl⟩, hc, hr⟩
    · rintro ⟨y, ⟨-, rfl⟩, hc, hr⟩
      exact ⟨x, hc, hr, rfl⟩
  | cons j path ih =>
    intro id x
    rw [List.cons_append, goTo?_cons_eq_some]
    simp only [goTo?_cons_eq_some, ih]
    constructor
    · rintro ⟨c, hc, y, hy, hx⟩
      exact ⟨y, ⟨c, hc, hy⟩, hx⟩
    · rintro ⟨y, ⟨c, hc, hy⟩, hx⟩
      exact ⟨c, hc, y, hy, hx⟩

theorem reflTransGen_of_goTo? {path : List Nat} : ∀ {id x : NodeId}, a.goTo? id path = some x →
    Relation.ReflTransGen a.Lists id x := by
  induction path with
  | nil =>
    intro id x h
    obtain ⟨-, rfl⟩ : a.InRange id ∧ id = x := by simpa [goTo?] using h
    exact .refl
  | cons i path ih =>
    intro id x h
    obtain ⟨c, hi, hc⟩ := goTo?_cons_eq_some.mp h
    exact (ih hc).head (List.mem_of_getElem? hi)

theorem transGen_of_goTo? {path : List Nat} {id x : NodeId} (h : a.goTo? id path = some x)
    (hne : path ≠ []) : Relation.TransGen a.Lists id x := by
  cases path with
  | nil => exact absurd rfl hne
  | cons i path =>
    obtain ⟨c, hi, hc⟩ := goTo?_cons_eq_some.mp h
    exact .head' (List.mem_of_getElem? hi) (reflTransGen_of_goTo? hc)

theorem length_le_of_goTo? {path : List Nat} : ∀ {links : Nat} {id x : NodeId},
    a.DepthLE links id → a.goTo? id path = some x → path.length ≤ links := by
  induction path with
  | nil => simp
  | cons i path ih =>
    intro links id x hd h
    obtain ⟨c, hi, hc⟩ := goTo?_cons_eq_some.mp h
    have hmem := List.mem_of_getElem? hi
    cases links with
    | zero => rw [show a.childIds id = [] from hd] at hmem; simp at hmem
    | succ links => exact Nat.succ_le_succ (ih (hd c hmem) hc)

end Arena
end MarkupSearch
