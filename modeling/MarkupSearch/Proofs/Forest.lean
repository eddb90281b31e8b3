/-
# Forests, and the edits that keep them

An arena is a forest when its two directions of links agree, no child is listed twice, nothing
points out of range and no child links form a cycle; a node then belongs to one parent at most.
Nothing in an arena makes it a forest but the way it was edited. New nodes without links and a new
root keep forests. A link takes no old link away and looks at no ancestors, so it keeps a forest
exactly when it fails, or the child had no parent and is neither the new parent nor above it
(`Forest.linked_iff`).

What one change keeps (`Forest.after`) is kept by every run of changes that fit (`Built.forest`).

Key definitions: `Arena.Forest`, `Change`, `Change.Fits`, `Arena.Built`.
Key theorems: `Arena.Forest.push`, `Arena.Forest.linked_iff`, `Arena.Built.forest`,
`Arena.forest_of_edits`.
-/
import MarkupSearch.Proofs.Edits

namespace MarkupSearch

/-- A node that lists no children and names no parent. -/
def Node.Unlinked (n : Node) : Prop := n.children = [] ∧ n.parent = none

namespace Arena

variable {a : Arena}

/-- The id that a node names as its parent. -/
def parentId (a : Arena) (id : NodeId) : Option NodeId := (a.get? id).bind (·.parent)

/-- The links of an arena are those of trees, each with its parents and children agreeing. -/
structure Forest (a : Arena) : Prop where
  /-- The id of a node is its place. -/
  id : ∀ (i : Nat) (n : Node), a.nodes[i]? = some n → n.id.toNat = i
  child_inRange : ∀ p c, a.Lists p c → a.InRange c
  parent_inRange : ∀ c p, a.parentId c = some p → a.InRange p
  root_inRange : ∀ r, a.root = some r → a.InRange r
  /-- A node is listed by the node that it names as its parent, and by no other. -/
  lists_iff : ∀ p c, a.Lists p c ↔ a.parentId c = some p
  /-- No child is listed twice. -/
  nodup : ∀ p, (a.childIds p).Nodup
  acyclic : a.Acyclic

/-- No node belongs to two parents. -/
theorem Forest.parent_unique (h : a.Forest) {p q c : NodeId} (hp : a.Lists p c)
    (hq : a.Lists q c) : p = q := by
  rw [h.lists_iff] at hp hq
  exact Option.some.inj (hp.symm.trans hq)

theorem Forest.parentId_eq_none_iff (h : a.Forest) {c : NodeId} :
    a.parentId c = none ↔ ∀ p, ¬ a.Lists p c := by
  simp only [h.lists_iff, Option.eq_none_iff_forall_ne_some, ne_eq]

theorem forest_withCapacity (capacity : Nat) : (withCapacity capacity).Forest := by
  have hget : ∀ id, (withCapacity capacity).get? id = none := fun id => by
    simp [withCapacity, get?]
  have hchild : ∀ id, (withCapacity capacity).childIds id = [] := fun id =>
    childIds_of_get?_eq_none (hget id)
  have hparent : ∀ id, (withCapacity capacity).parentId id = none := fun id => by
    rw [parentId, hget id, Option.bind_none]
  refine ⟨fun i n hn => ?_, fun p c hc => ?_, fun c p hp => ?_, fun r hr => ?_, fun p c => ?_,
    fun p => ?_, ?_⟩
  · simp [withCapacity] at hn
  · simp [Lists, hchild] at hc
  · simp [hparent] at hp
  · simp [withCapacity] at hr
  · simp [Lists, hchild, hparent]
  · rw [hchild]
    exact List.nodup_nil
  · exact acyclic_of_later fun i hi => by simp [withCapacity] at hi

theorem forest_empty : empty.Forest := forest_withCapacity 0

/-! ### A node more -/

theorem get?_push (n : Node) (id : NodeId) :
    (a.push n).get? id =
      if id.toNat = a.size then some { n with id := a.size.toUInt32 } else a.get? id :=
  getElem?_push n id.toNat

theorem get?_eq_none_of_toNat_eq {id : NodeId} (h : id.toNat = a.size) : a.get? id = none := by
  rw [get?_eq_none_iff, InRange, h]
  exact Nat.lt_irrefl _

theorem childIds_push {n : Node} (hn : n.children = []) (id : NodeId) :
    (a.push n).childIds id = a.childIds id := by
  by_cases h : id.toNat = a.size
  · rw [childIds_of_get?_eq_none (get?_eq_none_of_toNat_eq h), childIds, get?_push, if_pos h]
    exact hn
  · rw [childIds, childIds, get?_push, if_neg h]

theorem parentId_push {n : Node} (hn : n.Unlinked) (id : NodeId) :
    (a.push n).parentId id = a.parentId id := by
  by_cases h : id.toNat = a.size
  · rw [parentId, parentId, get?_eq_none_of_toNat_eq h, get?_push, if_pos h]
    exact hn.2
  · rw [parentId, parentId, get?_push, if_neg h]

theorem lists_push {n : Node} (hn : n.children = []) : (a.push n).Lists = a.Lists := by
  funext p c
  rw [Lists, Lists, childIds_push hn]

theorem Acyclic.push (h : a.Acyclic) {n : Node} (hn : n.children = []) : (a.push n).Acyclic := by
  rw [Acyclic, lists_push hn]
  exact h

/-- A node without links may always come to a forest. -/
theorem Forest.push (h : a.Forest) (hsize : a.size < UInt32.size) {n : Node} (hn : n.Unlinked) :
    (a.push n).Forest where
  id i m hm := by
    rw [getElem?_push] at hm
    by_cases hi : i = a.size
    · rw [if_pos hi, Option.some.injEq] at hm
      rw [← hm, hi]
      exact toNat_size hsize
    · rw [if_neg hi] at hm
      exact h.id i m hm
  child_inRange p c hc := by
    rw [lists_push hn.1] at hc
    exact inRange_push n (h.child_inRange p c hc)
  parent_inRange c p hp := by
    rw [parentId_push hn] at hp
    exact inRange_push n (h.parent_inRange c p hp)
  root_inRange r hr := inRange_push n (h.root_inRange r hr)
  lists_iff p c := by
    rw [lists_push hn.1, parentId_push hn]
    exact h.lists_iff p c
  nodup p := by
    rw [childIds_push hn.1]
    exact h.nodup p
  acyclic := h.acyclic.push hn.1

/-! ### A link more -/

theorem get?_linked (p c id : NodeId) :
    (a.linked p c).get? id = (a.get? id).map fun n =>
      { n with
        children := if p = id then n.children ++ [c] else n.children
        parent := if c = id then some p else n.parent } := by
  simp only [get?, getElem?_linked, UInt32.toNat_inj]

theorem childIds_linked {p : NodeId} (hp : a.InRange p) (c id : NodeId) :
    (a.linked p c).childIds id = if p = id then a.childIds id ++ [c] else a.childIds id := by
  rw [childIds, childIds, get?_linked]
  cases hn : a.get? id with
  | some n => rfl
  | none =>
    have hne : p ≠ id := by
      rintro rfl
      exact get?_eq_none_iff.mp hn hp
    simp [hne]

theorem parentId_linked {c : NodeId} (hc : a.InRange c) (p id : NodeId) :
    (a.linked p c).parentId id = if c = id then some p else a.parentId id := by
  rw [parentId, parentId, get?_linked]
  cases hn : a.get? id with
  | some n => rfl
  | none =>
    have hne : c ≠ id := by
      rintro rfl
      exact get?_eq_none_iff.mp hn hc
    simp [hne]

theorem lists_linked {p : NodeId} (hp : a.InRange p) (c x y : NodeId) :
    (a.linked p c).Lists x y ↔ a.Lists x y ∨ x = p ∧ y = c := by
  rw [Lists, Lists, childIds_linked hp]
  by_cases hx : p = x
  · subst hx
    simp
  · rw [if_neg hx]
    exact (or_iff_left fun e => hx e.1.symm).symm

/-- A way along old links and one new link uses old links only, or leads to where the new one
starts and on from where it ends. -/
theorem transGen_or_of_transGen {α : Type} {r r' : α → α → Prop} {p c x y : α}
    (hr : ∀ u v, r' u v → r u v ∨ u = p ∧ v = c) (h : Relation.TransGen r' x y) :
    Relation.TransGen r x y ∨ Relation.ReflTransGen r x p ∧ Relation.ReflTransGen r c y := by
  -- on the last link of the way; what comes before it may hold the new link or not
  induction h with
  | single hxy =>
    rcases hr _ _ hxy with old | ⟨rfl, rfl⟩
    · exact Or.inl (.single old)
    · exact Or.inr ⟨.refl, .refl⟩
  | tail _ hyz ih =>
    rcases hr _ _ hyz with old | ⟨rfl, rfl⟩
    · rcases ih with way | ⟨toStart, fromEnd⟩
      · exact Or.inl (way.tail old)
      · exact Or.inr ⟨toStart, fromEnd.tail old⟩
    · rcases ih with way | ⟨toStart, -⟩
      · exact Or.inr ⟨way.to_reflTransGen, .refl⟩
      · exact Or.inr ⟨toStart, .refl⟩

theorem Acyclic.linked (h : a.Acyclic) {p c : NodeId} (hp : a.InRange p) (hne : c ≠ p)
    (above : ¬ Relation.TransGen a.Lists c p) : (a.linked p c).Acyclic := by
  intro id cycle
  rcases transGen_or_of_transGen (fun u v => (lists_linked hp c u v).mp) cycle with
    old | ⟨toParent, fromChild⟩
  · exact h id old
  · rcases Relation.reflTransGen_iff_eq_or_transGen.mp (fromChild.trans toParent) with rfl | way
    · exact hne rfl
    · exact above way

/-- The id that a new node is given is that of no other node. -/
theorem size_ne_of_inRange (hsize : a.size < UInt32.size) {id : NodeId} (hid : a.InRange id) :
    a.size.toUInt32 ≠ id := by
  rintro rfl
  rw [InRange, toNat_size hsize] at hid
  exact hid.false

/-- Nothing lies below a new node. -/
theorem not_transGen_push (hsize : a.size < UInt32.size) {n : Node} (hn : n.children = [])
    (id : NodeId) : ¬ Relation.TransGen (a.push n).Lists a.size.toUInt32 id := by
  intro way
  obtain ⟨c, hc, -⟩ := Relation.TransGen.head'_iff.mp way
  have alone := get?_eq_none_of_toNat_eq (toNat_size hsize)
  rw [lists_push hn, Lists, childIds_of_get?_eq_none alone] at hc
  simp at hc

theorem Acyclic.linked_push (h : a.Acyclic) (hsize : a.size < UInt32.size) {n : Node}
    (hn : n.children = []) {p : NodeId} (hp : a.InRange p) :
    ((a.push n).linked p a.size.toUInt32).Acyclic :=
  (h.push hn).linked (inRange_push n hp) (size_ne_of_inRange hsize hp)
    (not_transGen_push hsize hn p)

theorem Forest.linked (h : a.Forest) {p c : NodeId} (hp : a.InRange p) (hc : a.InRange c)
    (free : a.parentId c = none) (hne : c ≠ p) (above : ¬ Relation.TransGen a.Lists c p) :
    (a.linked p c).Forest where
  id i m hm := by
    rw [getElem?_linked, Option.map_eq_some_iff] at hm
    obtain ⟨n, hn, rfl⟩ := hm
    exact h.id i n hn
  child_inRange x y hy := by
    rw [inRange_linked]
    rcases (lists_linked hp c x y).mp hy with old | ⟨-, rfl⟩
    · exact h.child_inRange x y old
    · exact hc
  parent_inRange y x hx := by
    rw [inRange_linked]
    rw [parentId_linked hc] at hx
    by_cases hy : c = y
    · rw [if_pos hy] at hx
      exact Option.some.inj hx ▸ hp
    · rw [if_neg hy] at hx
      exact h.parent_inRange y x hx
  root_inRange r hr := inRange_linked.mpr (h.root_inRange r hr)
  lists_iff x y := by
    rw [lists_linked hp, parentId_linked hc]
    by_cases hy : c = y
    · subst hy
      have nobody := h.parentId_eq_none_iff.mp free
      simp [nobody x, eq_comm]
    · rw [if_neg hy, h.lists_iff]
      exact or_iff_left fun e => hy e.2.symm
  nodup x := by
    rw [childIds_linked hp]
    by_cases hx : p = x
    · subst hx
      rw [if_pos rfl]
      refine List.Nodup.append (h.nodup p) (List.nodup_singleton c) ?_
      rw [List.disjoint_singleton]
      exact h.parentId_eq_none_iff.mp free p
    · rw [if_neg hx]
      exact h.nodup x
  acyclic := h.acyclic.linked hp hne above

/-- **When a link keeps a forest**: exactly when the child had no parent and is neither the new
parent nor above it. -/
theorem Forest.linked_iff (h : a.Forest) {p c : NodeId} (hp : a.InRange p) (hc : a.InRange c) :
    (a.linked p c).Forest ↔
      a.parentId c = none ∧ c ≠ p ∧ ¬ Relation.TransGen a.Lists c p := by
  constructor
  · intro h'
    have new : (a.linked p c).Lists p c := (lists_linked hp c p c).mpr (Or.inr ⟨rfl, rfl⟩)
    have old : ∀ x y, a.Lists x y → (a.linked p c).Lists x y := fun x y hxy =>
      (lists_linked hp c x y).mpr (Or.inl hxy)
    refine ⟨h.parentId_eq_none_iff.mpr fun q hq => ?_, ?_, fun way => ?_⟩
    · -- the old parent lists the child still, so it is the new one and lists it twice
      obtain rfl : q = p := h'.parent_unique (old q c hq) new
      have twice := h'.nodup q
      rw [childIds_linked hp, if_pos rfl, List.nodup_append] at twice
      exact twice.2.2 c hq c (List.mem_singleton_self c) rfl
    · rintro rfl
      exact h'.acyclic c (.single new)
    · exact h'.acyclic c ((Relation.TransGen.mono old _ _ way).tail new)
  · rintro ⟨free, hne, above⟩
    exact h.linked hp hc free hne above

/-- A node without links may come to a forest below any node. -/
theorem Forest.linked_push (h : a.Forest) (hsize : a.size < UInt32.size) {n : Node}
    (hn : n.Unlinked) {p : NodeId} (hp : a.InRange p) :
    ((a.push n).linked p a.size.toUInt32).Forest := by
  have free : (a.push n).parentId a.size.toUInt32 = none := by
    rw [parentId_push hn, parentId, get?_eq_none_of_toNat_eq (toNat_size hsize), Option.bind_none]
  exact (h.push hsize hn).linked (inRange_push n hp) (inRange_push_size n) free
    (size_ne_of_inRange hsize hp) (not_transGen_push hsize hn.1 p)

theorem Forest.setRoot (h : a.Forest) {id : NodeId} (hid : a.InRange id) :
    Forest { a with root := some id } where
  id := h.id
  child_inRange := h.child_inRange
  parent_inRange := h.parent_inRange
  root_inRange _ hr := Option.some.inj hr ▸ hid
  lists_iff := h.lists_iff
  nodup := h.nodup
  acyclic := h.acyclic

end Arena

/-! ### Runs of changes -/

/-- A change of an arena. -/
inductive Change where
  | insert (n : Node)
  | insertUnder (p : NodeId) (n : Node)
  | link (p c : NodeId)
  | setRoot (id : NodeId)
  | clear

namespace Change

/-- The arena after a change, whether it failed or not. -/
def after (a : Arena) : Change → Arena
  | insert n => ((Edit.insert n).outcome a).2
  | insertUnder p n => ((Edit.insertUnder p n).outcome a).2
  | link p c => ((Edit.link p c).outcome a).2
  | setRoot id => ((Edit.setRoot id).outcome a).2
  | clear => (Edit.clear.outcome a).2

/-- A change that a forest stands: new nodes come without links and find an id left for them, and
what is linked had no parent and is neither the new parent nor above it, unless the link fails. -/
def Fits (a : Arena) : Change → Prop
  | insert n => n.Unlinked ∧ a.size < UInt32.size
  | insertUnder _ n => n.Unlinked ∧ a.size < UInt32.size
  | link p c => (∃ e, ((Edit.link p c).outcome a).1 = .error e) ∨
      a.parentId c = none ∧ c ≠ p ∧ ¬ Relation.TransGen a.Lists c p
  | setRoot _ => True
  | clear => True

end Change

namespace Arena

variable {a : Arena}

/-- A link keeps a forest exactly when it fits; one that fails fits, since it changes nothing. -/
theorem Forest.outcome_link_iff (h : a.Forest) (p c : NodeId) :
    ((Edit.link p c).outcome a).2.Forest ↔ (Change.link p c).Fits a := by
  by_cases hc : a.InRange c
  · by_cases hp : a.InRange p
    · simp [Change.Fits, Edit.outcome_link hp hc, h.linked_iff hp hc]
    · simp [Change.Fits, Edit.outcome_link_of_parent hc hp, h]
  · simp [Change.Fits, Edit.outcome_link_of_child hc, h]

theorem Forest.outcome_insertUnder (h : a.Forest) (hsize : a.size < UInt32.size) {n : Node}
    (hn : n.Unlinked) (p : NodeId) : ((Edit.insertUnder p n).outcome a).2.Forest := by
  by_cases hp : a.InRange p
  · rw [Edit.outcome_insertUnder hp]
    exact h.linked_push hsize hn hp
  · rw [Edit.outcome_insertUnder_of_not_inRange hp]
    exact h

theorem Forest.outcome_setRoot (h : a.Forest) (id : NodeId) :
    ((Edit.setRoot id).outcome a).2.Forest := by
  by_cases hid : a.InRange id
  · rw [Edit.outcome_setRoot hid]
    exact h.setRoot hid
  · rw [Edit.outcome_setRoot_of_not_inRange hid]
    exact h

/-- **One change** that fits keeps a forest. -/
theorem Forest.after (h : a.Forest) {ch : Change} (fits : ch.Fits a) : (ch.after a).Forest := by
  cases ch with
  | insert n => exact h.push fits.2 fits.1
  | insertUnder p n => exact h.outcome_insertUnder fits.2 fits.1 p
  | link p c => exact (h.outcome_link_iff p c).mpr fits
  | setRoot id => exact h.outcome_setRoot id
  | clear => exact forest_empty

/-- An arena that was built from one without nodes by changes that fit. -/
inductive Built : Arena → Prop
  | empty : Built Arena.empty
  | withCapacity (capacity : Nat) : Built (Arena.withCapacity capacity)
  | change {a : Arena} (ch : Change) (built : Built a) (fits : ch.Fits a) : Built (ch.after a)

/-- **A run of changes** that fit leads to a forest. -/
theorem Built.forest (h : a.Built) : a.Forest := by
  induction h with
  | empty => exact forest_empty
  | withCapacity capacity => exact forest_withCapacity capacity
  | change ch _ fits ih => exact ih.after fits

/-- **Which edits keep forests.** Arenas begin as forests; new nodes without links, a new root and
clearing keep them, whether they fail or not; a link keeps them exactly when it fails, or the child
had no parent and is neither the new parent nor above it. So after any run of such edits no node
belongs to two parents. -/
theorem forest_of_edits :
    (empty.Forest ∧ ∀ capacity, (withCapacity capacity).Forest) ∧
    (∀ a : Arena, a.Forest →
      (∀ n : Node, n.Unlinked → a.size < UInt32.size →
        ((Edit.insert n).outcome a).2.Forest ∧
        ∀ p, ((Edit.insertUnder p n).outcome a).2.Forest) ∧
      (∀ id, ((Edit.setRoot id).outcome a).2.Forest) ∧
      (Edit.clear.outcome a).2.Forest ∧
      ∀ p c, ((Edit.link p c).outcome a).2.Forest ↔
        (∃ e, ((Edit.link p c).outcome a).1 = .error e) ∨
          a.parentId c = none ∧ c ≠ p ∧ ¬ Relation.TransGen a.Lists c p) ∧
    ∀ a : Arena, a.Built → a.Forest ∧ ∀ p q c, a.Lists p c → a.Lists q c → p = q := by
  refine ⟨⟨forest_empty, forest_withCapacity⟩, fun a h => ⟨fun n hn hsize => ?_, ?_⟩,
    fun a built => ⟨built.forest, fun p q c => built.forest.parent_unique⟩⟩
  · exact ⟨h.push hsize hn, h.outcome_insertUnder hsize hn⟩
  · exact ⟨h.outcome_setRoot, forest_empty, h.outcome_link_iff⟩

/-- A list with one entry, and a text that belongs to neither. -/
def entryAndText : Arena :=
  Change.after (Change.after (Change.after (withCapacity 2) (.insert (Node.element "ul" [])))
    (.insertUnder 0 (Node.element "li" []))) (.insert (Node.text "x"))

theorem forest_of_edits_entryAndText :
    entryAndText.Forest ∧ ((Edit.link 1 2).outcome entryAndText).2.Forest ∧
      ¬ ((Edit.link 2 1).outcome entryAndText).2.Forest ∧
      ¬ ((Edit.link 0 0).outcome entryAndText).2.Forest ∧
      ∀ p q c, entryAndText.Lists p c → entryAndText.Lists q c → p = q := by
  obtain ⟨-, edits, run⟩ := forest_of_edits
  have list := Built.change (.insert (Node.element "ul" [])) (.withCapacity 2)
    ⟨⟨rfl, rfl⟩, by decide⟩
  have entry := Built.change (.insertUnder 0 (Node.element "li" [])) list ⟨⟨rfl, rfl⟩, by decide⟩
  have text := Built.change (.insert (Node.text "x")) entry ⟨⟨rfl, rfl⟩, by decide⟩
  obtain ⟨forest, unique⟩ := run entryAndText text
  have link := (edits entryAndText forest).2.2.2
  have ends : entryAndText.childIds 2 = [] := by decide
  have ok : ∀ p c : NodeId, ((Edit.link p c).outcome entryAndText).1 = .ok () →
      ¬ ∃ e, ((Edit.link p c).outcome entryAndText).1 = .error e := by
    rintro p c h ⟨e, he⟩
    rw [h] at he
    exact absurd he (by simp)
  refine ⟨forest, (link 1 2).mpr (Or.inr ⟨by decide, by decide, fun way => ?_⟩), fun h => ?_,
    fun h => ?_, unique⟩
  · obtain ⟨c, hc, -⟩ := Relation.TransGen.head'_iff.mp way
    rw [Lists, ends] at hc
    simp at hc
  · rcases (link 2 1).mp h with failed | ⟨free, -⟩
    · exact ok 2 1 rfl failed
    · exact absurd free (by decide)
  · rcases (link 0 0).mp h with failed | ⟨-, hne, -⟩
    · exact ok 0 0 rfl failed
    · exact hne rfl

end Arena
end MarkupSearch
