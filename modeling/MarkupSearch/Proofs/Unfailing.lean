/-
# No look-up fails in a forest

Walks, renderings and steps along links fail only where they come to an id out of range. In a
forest all links stay in range, those to parents too, so from an id in range nothing fails
(`Forest.unfailing`). Renderings and walks are seen through their recursive forms: a recursion that
fails nowhere below a node does not fail at the node.

Key definition: `Arena.Unfailing`.
Key theorems: `Arena.Forest.markup_ok`, `Arena.inRange_of_mem_query`, `Arena.Forest.unfailing`.
-/
import MarkupSearch.Proofs.Chaining
import MarkupSearch.Proofs.DocumentOrder
import MarkupSearch.Proofs.Forest
import MarkupSearch.Proofs.Rendering

namespace MarkupSearch

theorem Render.inOrder_ok : ∀ {rs : List (Except Failure String)}, (∀ r ∈ rs, ∃ s, r = .ok s) →
    ∃ s, Render.inOrder rs = .ok s
  | [], _ => ⟨"", rfl⟩
  | r :: rs, h => by
    obtain ⟨s, rfl⟩ := h r List.mem_cons_self
    obtain ⟨t, ht⟩ := Render.inOrder_ok fun q hq => h q (List.mem_cons_of_mem _ hq)
    exact ⟨s ++ t, by rw [Render.inOrder, ht]; rfl⟩

namespace Arena

/-- From ids in range nothing fails: neither a step along links nor a walk nor a rendering, and what
a selector leads to is in range. -/
structure Unfailing (a : Arena) : Prop where
  query : ∀ root selector, ∀ id ∈ a.query root selector, a.InRange id
  children : ∀ id, a.InRange id → ∃ ns, a.children id = .ok ns
  parent : ∀ id, a.InRange id → ∃ n, a.parent id = .ok n
  /-- A walk comes to its end unless the visitor fails. -/
  walk : ∀ (σ : Type) (visit : Visitor σ), (∀ n s, (visit.at n s).1 = .ok ()) →
    ∀ id, a.InRange id → ∀ s, (a.walk id visit s).1 = .ok ()
  textContent : ∀ id, a.InRange id → ∃ s, a.textContent id = .ok s
  render : ∀ o id, a.InRange id → ∃ s, a.render o id = .ok s
  renderAll : ∀ o ids, (∀ id ∈ ids, a.InRange id) → ∃ s, a.renderAll o ids = .ok s
  renderRoot : ∀ o, ∃ s, a.renderRoot o = .ok s

variable {a : Arena} {id : NodeId} {o : Render.Options}

/-! ### What selectors lead to -/

theorem inRange_of_mem_findBelow {test : Node → Bool} {x : NodeId}
    (h : x ∈ a.findBelow id test) : a.InRange x := by
  obtain ⟨n, hn, -⟩ := mem_search h
  exact inRange_of_get? hn

theorem inRange_of_mem_followFrom (stages : List Stage) : ∀ {working : List NodeId},
    (∀ id ∈ working, a.InRange id) → ∀ x ∈ a.followFrom stages working, a.InRange x := by
  induction stages with
  | nil => exact fun h => h
  | cons s stages ih =>
    intro working _
    rw [followFrom_cons]
    refine ih fun x hx => ?_
    obtain ⟨id, -, hx⟩ := List.mem_flatMap.mp hx
    exact inRange_of_mem_findBelow hx

/-- What a selector leads to is in range, wherever it starts. -/
theorem inRange_of_mem_query {root : Option NodeId} {selector : String} {x : NodeId}
    (h : x ∈ a.query root selector) : a.InRange x := by
  by_cases hs : (Selector.parse selector).stages = []
  · rw [query_of_stages_eq_nil hs] at h
    simp at h
  · obtain ⟨s, stages, hcons⟩ := List.exists_cons_of_ne_nil hs
    -- the first stage leaves only what it has found, whether or not the root is in range
    rw [query_of_stages_ne_nil hs, hcons, follow, followFrom_cons] at h
    refine inRange_of_mem_followFrom stages (fun y hy => ?_) x h
    obtain ⟨id, -, hy⟩ := List.mem_flatMap.mp hy
    exact inRange_of_mem_findBelow hy

namespace Forest

/-! ### Links -/

/-- The node that a node names as its parent is there. -/
theorem exists_parent (h : a.Forest) {n : Node} (hn : a.get? id = some n) {p : NodeId}
    (hp : n.parent = some p) : ∃ m, a.get? p = some m := by
  have hparent : a.parentId id = some p := by rw [parentId, hn, Option.bind_some, hp]
  exact inRange_iff.mp (h.parent_inRange id p hparent)

theorem parent_ok (h : a.Forest) (hid : a.InRange id) : ∃ n, a.parent id = .ok n := by
  obtain ⟨n, hn⟩ := inRange_iff.mp hid
  rw [parent_of_get? hn]
  cases hp : n.parent with
  | none => exact ⟨none, rfl⟩
  | some p =>
    obtain ⟨m, hm⟩ := h.exists_parent hn hp
    simp only [hm]
    exact ⟨some m, rfl⟩

theorem mapM_get_ok : ∀ {ids : List NodeId}, (∀ id ∈ ids, a.InRange id) →
    ∃ ns, ids.mapM a.get = .ok ns
  | [], _ => ⟨[], rfl⟩
  | id :: ids, h => by
    obtain ⟨n, hn⟩ := inRange_iff.mp (h id List.mem_cons_self)
    obtain ⟨ns, hns⟩ := mapM_get_ok fun c hc => h c (List.mem_cons_of_mem _ hc)
    exact ⟨n :: ns, by rw [List.mapM_cons, get, hn, hns]; rfl⟩

theorem children_ok (h : a.Forest) (hid : a.InRange id) : ∃ ns, a.children id = .ok ns := by
  obtain ⟨n, hn⟩ := inRange_iff.mp hid
  obtain ⟨ns, hns⟩ := mapM_get_ok fun c hc => h.child_inRange id c (lists_of_mem_children hn hc)
  exact ⟨ns, by rw [children, get, hn]; exact hns⟩

/-! ### Walks -/

theorem inRange_of_reflTransGen (h : a.Forest) (hid : a.InRange id) {x : NodeId}
    (hx : Relation.ReflTransGen a.Lists id x) : a.InRange x := by
  cases hx with
  | refl => exact hid
  | tail _ hlast => exact h.child_inRange _ _ hlast

theorem walk_ok (h : a.Forest) {σ : Type} {visit : Visitor σ}
    (hv : ∀ n s, (visit.at n s).1 = .ok ()) (hid : a.InRange id) (s : σ) :
    (a.walk id visit s).1 = .ok () := by
  have acyclic := h.acyclic.acyclicFrom id
  rw [walk_eq_visitAll acyclic]
  exact visitAll_ok hv
    (fun x hx => h.inRange_of_reflTransGen hid (reflTransGen_of_mem_preorder acyclic hx)) s

theorem textContent_ok (h : a.Forest) (hid : a.InRange id) : ∃ s, a.textContent id = .ok s := by
  have gathers : ∀ n s, (gatherText.at n s).1 = .ok () := by
    intro n s
    rw [Visitor.at, gatherText]
    split <;> rfl
  have hwalk : a.walk id gatherText "" = (.ok (), (a.walk id gatherText "").2) :=
    Prod.ext (h.walk_ok gathers hid "") rfl
  rw [textContent, hwalk]
  exact ⟨_, rfl⟩

/-! ### Renderings -/

theorem nodeMarkup_ok (h : a.Forest) {n : Node} (hn : a.get? id = some n)
    {inner : Except Failure String} (hin : ∃ s, inner = .ok s) :
    ∃ s, a.nodeMarkup o n inner = .ok s := by
  obtain ⟨s, rfl⟩ := hin
  cases hk : n.kind
  case text =>
    simp only [nodeMarkup, hk]
    cases hp : n.parent with
    | none => exact ⟨_, rfl⟩
    | some p =>
      obtain ⟨m, hm⟩ := h.exists_parent hn hp
      simp only [hm]
      split <;> exact ⟨_, rfl⟩
  case element =>
    simp only [nodeMarkup, hk]
    split <;> exact ⟨_, rfl⟩
  all_goals
    simp only [nodeMarkup, hk]
    exact ⟨_, rfl⟩

/-- **The markup of a node is a text**, by recursion on what lies below the node. -/
theorem markup_ok (h : a.Forest) (o : Render.Options) (id : NodeId) (hid : a.InRange id)
    (acyclic : a.AcyclicFrom id) : ∃ s, a.markup o id acyclic = .ok s := by
  obtain ⟨n, hn⟩ := inRange_iff.mp hid
  rw [markup_of_get? acyclic hn]
  refine h.nodeMarkup_ok hn (Render.inOrder_ok fun r hr => ?_)
  obtain ⟨c, hc, rfl⟩ := List.mem_pmap.mp hr
  have hlists := lists_of_mem_children hn hc
  exact markup_ok h o c (h.child_inRange id c hlists) (acyclic.child hlists)
termination_by (⟨id, acyclic⟩ : {id : NodeId // a.AcyclicFrom id})
decreasing_by exact hlists

theorem render_ok (h : a.Forest) (o : Render.Options) (hid : a.InRange id) :
    ∃ s, a.render o id = .ok s := by
  rw [render_eq (h.acyclic.acyclicFrom id)]
  exact h.markup_ok o id hid _

theorem renderAll_ok (h : a.Forest) (o : Render.Options) {ids : List NodeId}
    (hids : ∀ id ∈ ids, a.InRange id) : ∃ s, a.renderAll o ids = .ok s := by
  have acyclic : ∀ id ∈ ids, a.AcyclicFrom id := fun id _ => h.acyclic.acyclicFrom id
  obtain ⟨s, hs⟩ : ∃ s, Render.inOrder (ids.pmap (a.markup o) acyclic) = .ok s := by
    refine Render.inOrder_ok fun r hr => ?_
    obtain ⟨id, hid, rfl⟩ := List.mem_pmap.mp hr
    exact h.markup_ok o id (hids id hid) _
  rw [renderAll, foldlM_renderOnto_eq ids acyclic, hs]
  exact ⟨_, rfl⟩

theorem renderRoot_ok (h : a.Forest) (o : Render.Options) : ∃ s, a.renderRoot o = .ok s := by
  rw [renderRoot]
  cases hr : a.root with
  | none => exact ⟨"", rfl⟩
  | some id => exact h.render_ok o (h.root_inRange id hr)

/-- **Nothing fails in a forest.** -/
theorem unfailing (h : a.Forest) : a.Unfailing where
  query _ _ _ hid := inRange_of_mem_query hid
  children _ hid := h.children_ok hid
  parent _ hid := h.parent_ok hid
  walk _ _ hv _ hid s := h.walk_ok hv hid s
  textContent _ hid := h.textContent_ok hid
  render o _ hid := h.render_ok o hid
  renderAll o _ hids := h.renderAll_ok o hids
  renderRoot o := h.renderRoot_ok o

end Forest
end Arena
end MarkupSearch
