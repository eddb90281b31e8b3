/-
# Rendering by recursion

Where no cycle can be reached, the markup of a node can be given by recursion on what lies below
it (`Arena.markup`): the start tag, the markup of the children one after the other, the end tag. A
rendering keeps openings and closings of all levels on one stack instead. Working off the opening
of a node writes the node's markup and goes on with what waited below it on the stack, or stops
with the failure that the markup is (`writes_markup`), and so both give the same text or the same
failure (`render_eq_markup`).

Key definitions: `Render.inOrder`, `Arena.nodeMarkup`, `Arena.markup`, `Render.Writes`.
Key theorems: `Render.writes_opening`, `Render.writes_markup`, `Arena.render_eq_markup`.
-/
import MarkupSearch.Proofs.Links
import MarkupSearch.Render

namespace MarkupSearch

/-- Several texts one after the other, or the first failure among them. -/
def Render.inOrder : List (Except Failure String) → Except Failure String
  | [] => .ok ""
  | r :: rs => do
    let s ← r
    let t ← Render.inOrder rs
    return s ++ t

namespace Arena

variable {a : Arena} {o : Render.Options}

theorem parent_of_get? {id : NodeId} {n : Node} (hn : a.get? id = some n) :
    a.parent id =
      match n.parent with
      | none => .ok none
      | some p =>
        match a.get? p with
        | none => .error (.nodeNotFound p)
        | some parent => .ok (some parent) := by
  simp only [parent, get, hn, bind, Except.bind, pure, Except.pure]
  cases n.parent with
  | none => rfl
  | some p => cases hp : a.get? p <;> simp only [hp]

/-- The markup of a node, given that of all its children together. -/
def nodeMarkup (a : Arena) (o : Render.Options) (n : Node) (inner : Except Failure String) :
    Except Failure String :=
  match n.kind with
  | .element =>
    let attributes := n.attributes.map fun t =>
      " " ++ t.name ++ "=\"" ++ Escape.text .quoted t.value ++ "\""
    let start := "<" ++ n.name ++ String.join attributes ++ ">"
    if Render.isVoid n.name then .ok start
    else inner.map fun s => start ++ (s ++ ("</" ++ n.name ++ ">"))
  | .text =>
    match n.parent with
    | none => .ok (Escape.text .content n.value)
    | some p =>
      match a.get? p with
      | none => .error (.nodeNotFound p)
      | some parent =>
        if parent.kind = .element ∧ Render.isRawText parent.name then .ok n.value
        else .ok (Escape.text .content n.value)
  | .comment => .ok (if o.skipComments then "" else "<!--" ++ n.value ++ "-->")
  | .doctype => .ok ("<!DOCTYPE " ++ n.name ++ ">")
  | .instruction => .ok ("<?" ++ n.name ++ " " ++ n.value ++ ">")
  | .document => inner

theorem lists_of_mem_children {id c : NodeId} {n : Node} (hn : a.get? id = some n)
    (hc : c ∈ n.children) : a.Lists id c := by
  rw [Lists, childIds_of_get? hn]
  exact hc

/-- The markup of a node with all below it, by recursion on what lies below. -/
def markup (a : Arena) (o : Render.Options) (id : NodeId) (h : a.AcyclicFrom id) :
    Except Failure String :=
  match hn : a.get? id with
  | none => .error (.nodeNotFound id)
  | some n =>
    a.nodeMarkup o n (Render.inOrder (n.children.attach.map fun c =>
      a.markup o c.1 (h.child (lists_of_mem_children hn c.2))))
termination_by (⟨id, h⟩ : {id : NodeId // a.AcyclicFrom id})
decreasing_by exact lists_of_mem_children hn c.2

theorem markup_of_get?_eq_none {id : NodeId} (h : a.AcyclicFrom id) (hn : a.get? id = none) :
    a.markup o id h = .error (.nodeNotFound id) := by
  rw [markup]
  split
  · rfl
  · next n hn' => rw [hn] at hn'; simp at hn'

theorem markup_of_get? {id : NodeId} {n : Node} (h : a.AcyclicFrom id) (hn : a.get? id = some n) :
    a.markup o id h = a.nodeMarkup o n (Render.inOrder (n.children.pmap (a.markup o)
      fun _ hc => h.child (lists_of_mem_children hn hc))) := by
  rw [markup]
  split
  · next hn' => rw [hn] at hn'; simp at hn'
  · next n' hn' =>
    obtain rfl : n = n' := Option.some.inj (hn.symm.trans hn')
    rw [List.pmap_eq_map_attach]

end Arena

/-! ### The stack -/

namespace Render

variable {a : Arena} {o : Options}

theorem run_nil (out : String) : (loop a o).run ([], out) = .ok out :=
  Loop.run_of_done rfl

theorem run_cons_of_ok {p : Pending} {text : String} {more : List Pending}
    (h : step a o p = .ok (text, more)) (waiting : List Pending) (out : String) :
    (loop a o).run (p :: waiting, out) = (loop a o).run (more ++ waiting, out ++ text) :=
  Loop.run_of_next (by simp [loop, round, h])

theorem run_cons_of_error {p : Pending} {e : Failure} (h : step a o p = .error e)
    (waiting : List Pending) (out : String) :
    (loop a o).run (p :: waiting, out) = .error e :=
  Loop.run_of_done (by simp [loop, round, h])

/-- The loop writes a result and goes on with what waits, or stops with the failure. -/
def Writes (a : Arena) (o : Options) (p : List Pending) (r : Except Failure String) : Prop :=
  ∀ waiting out, (loop a o).run (p ++ waiting, out) =
    r.bind fun s => (loop a o).run (waiting, out ++ s)

theorem Writes.append {p q : List Pending} {r t : Except Failure String} (hp : Writes a o p r)
    (hq : Writes a o q t) : Writes a o (p ++ q) (do return (← r) ++ (← t)) := by
  intro waiting out
  rw [List.append_assoc, hp]
  cases r with
  | error e => rfl
  | ok s =>
    change (loop a o).run (q ++ waiting, out ++ s) = _
    rw [hq]
    cases t with
    | error e => rfl
    | ok s' =>
      change (loop a o).run (waiting, out ++ s ++ s') = (loop a o).run (waiting, out ++ (s ++ s'))
      rw [String.append_assoc]

/-- A piece that is written at once. -/
theorem writes_of_step {p : Pending} {r : Except Failure String}
    (h : step a o p = r.map fun s => (s, [])) : Writes a o [p] r := by
  intro waiting out
  cases r with
  | error e => exact run_cons_of_error h waiting out
  | ok s => exact run_cons_of_ok h waiting out

/-- A piece that writes something at once and leaves the rest on the stack. -/
theorem writes_of_step_more {p : Pending} {s : String} {more : List Pending}
    {r : Except Failure String} (h : step a o p = .ok (s, more)) (hm : Writes a o more r) :
    Writes a o [p] (r.map (s ++ ·)) := by
  intro waiting out
  rw [List.singleton_append, run_cons_of_ok h, hm]
  cases r with
  | error e => rfl
  | ok t =>
    change (loop a o).run (waiting, out ++ s ++ t) = (loop a o).run (waiting, out ++ (s ++ t))
    rw [String.append_assoc]

theorem writes_nil : Writes a o [] (.ok "") := by
  intro waiting out
  change (loop a o).run (waiting, out) = (loop a o).run (waiting, out ++ "")
  rw [String.append_empty]

theorem writes_pmap {P : NodeId → Prop} {f : NodeId → Pending}
    {r : (id : NodeId) → P id → Except Failure String} :
    ∀ (ids : List NodeId) (hids : ∀ id ∈ ids, P id),
      (∀ id (h : id ∈ ids), Writes a o [f id] (r id (hids id h))) →
      Writes a o (ids.map f) (inOrder (ids.pmap r hids))
  | [], _, _ => writes_nil
  | id :: ids, hids, h =>
    Writes.append (h id List.mem_cons_self)
      (writes_pmap ids (fun c hc => hids c (List.mem_cons_of_mem _ hc)) fun c hc =>
        h c (List.mem_cons_of_mem _ hc))

theorem writes_closing {id : NodeId} {n : Node} (hn : a.get? id = some n) :
    Writes a o [.closing id] (.ok (endTag n)) :=
  writes_of_step (by rw [step, Arena.get, hn]; rfl)

theorem step_opening {v : Arena.Visit} {n : Node} (hn : a.get? v.id = some n) :
    step a o (.opening v) = openNode a o v n := by
  rw [step, Arena.get, hn]
  rfl

/-- A text is written as it is below a raw text element only; a parent out of range is a failure. -/
theorem step_text {v : Arena.Visit} {n : Node} (hn : a.get? v.id = some n) (hk : n.kind = .text)
    (inner : Except Failure String) :
    step a o (.opening v) = (a.nodeMarkup o n inner).map fun s => (s, []) := by
  rw [step_opening hn, openNode, Arena.nodeMarkup]
  simp only [hk]
  cases hp : n.parent with
  | none => rw [Arena.parent_of_get? hn, hp]; rfl
  | some p =>
    cases hq : a.get? p with
    | none => simp only [Arena.parent_of_get? hn, hp, hq, bind, Except.bind, Except.map]
    | some parent =>
      simp only [Arena.parent_of_get? hn, hp, hq, bind, Except.bind, rawBelow, Node.isElement,
        Bool.and_eq_true, decide_eq_true_eq]
      split <;> rfl

/-- The opening of a node writes its markup when the openings of its children write theirs. -/
theorem writes_opening {v : Arena.Visit} {n : Node} {inner : Except Failure String}
    (hn : a.get? v.id = some n)
    (hin : Writes a o ((v.below n.children).map .opening) inner) :
    Writes a o [.opening v] (a.nodeMarkup o n inner) := by
  have hstep := step_opening (o := o) hn
  cases hk : n.kind
  case text => exact writes_of_step (step_text hn hk inner)
  all_goals simp only [openNode, hk] at hstep; simp only [Arena.nodeMarkup, hk]
  case element =>
    split
    · next hv => exact writes_of_step (by rw [hstep, if_pos hv]; rfl)
    · next hv =>
      rw [if_neg hv] at hstep
      have := writes_of_step_more hstep (hin.append (writes_closing hn))
      cases inner <;> exact this
  case document =>
    have := writes_of_step_more hstep hin
    cases inner with
    | error e => exact this
    | ok s =>
      change Writes a o _ (.ok ("" ++ s)) at this
      rw [String.empty_append] at this
      exact this
  all_goals exact writes_of_step (by rw [hstep]; rfl)

/-- **The opening of a node writes its markup**, when the reach of the visit is enough for all
paths from there. -/
theorem writes_markup (reach : Nat) : ∀ (id : NodeId) (h : a.AcyclicFrom id),
    a.DepthLE reach id → Writes a o [.opening ⟨id, reach⟩] (a.markup o id h) := by
  -- a node out of range fails at once, whatever the reach
  have missing : ∀ (id : NodeId) (h : a.AcyclicFrom id) (reach : Nat), a.get? id = none →
      Writes a o [.opening ⟨id, reach⟩] (a.markup o id h) := by
    intro id h reach hn
    rw [Arena.markup_of_get?_eq_none h hn]
    exact writes_of_step (by rw [step, Arena.get, hn]; rfl)
  induction reach with
  | zero =>
    intro id h hd
    cases hn : a.get? id with
    | none => exact missing id h 0 hn
    | some n =>
      have hc : n.children = [] := by rw [← Arena.childIds_of_get? hn]; exact hd
      rw [Arena.markup_of_get? h hn]
      refine writes_opening hn ?_
      simp only [hc, List.pmap_nil]
      exact writes_nil
  | succ reach ih =>
    intro id h hd
    cases hn : a.get? id with
    | none => exact missing id h _ hn
    | some n =>
      rw [Arena.markup_of_get? h hn]
      refine writes_opening hn ?_
      rw [Arena.Visit.below, List.map_map]
      refine writes_pmap n.children _ fun c hc => ih c _ (hd c ?_)
      exact Arena.lists_of_mem_children hn hc

end Render

namespace Arena

variable {a : Arena} {o : Render.Options}

theorem renderOnto_eq {id : NodeId} (h : a.AcyclicFrom id) (out : String) :
    a.renderOnto o out id = (a.markup o id h).map (out ++ ·) := by
  have := Render.writes_markup (o := o) a.size id h h.depthLE [] out
  rw [renderOnto, visits, List.map_singleton, List.map_singleton]
  rw [List.append_nil] at this
  rw [this]
  cases a.markup o id h with
  | error e => rfl
  | ok s => exact Render.run_nil _

theorem foldlM_renderOnto_eq : ∀ (ids : List NodeId) (h : ∀ id ∈ ids, a.AcyclicFrom id)
    (out : String), ids.foldlM (a.renderOnto o) out =
      (Render.inOrder (ids.pmap (a.markup o) h)).map (out ++ ·)
  | [], _, out => by
    change Except.ok out = Except.ok (out ++ "")
    rw [String.append_empty]
  | id :: ids, h, out => by
    rw [List.foldlM_cons, renderOnto_eq (h id List.mem_cons_self), List.pmap_cons, Render.inOrder]
    cases a.markup o id (h id List.mem_cons_self) with
    | error e => rfl
    | ok s =>
      change ids.foldlM (a.renderOnto o) (out ++ s) = _
      rw [foldlM_renderOnto_eq ids (fun c hc => h c (List.mem_cons_of_mem _ hc))]
      simp only [bind, Except.bind, pure, Except.pure]
      cases Render.inOrder _ with
      | error e => rfl
      | ok t => simp only [Except.map, String.append_assoc]

theorem render_eq {id : NodeId} (h : a.AcyclicFrom id) : a.render o id = a.markup o id h := by
  rw [render, renderOnto_eq h]
  cases a.markup o id h with
  | error e => rfl
  | ok s => simp only [Except.map, String.empty_append]

/-- **Rendering off a stack is rendering by recursion**, failures included: of one node, of several
nodes, where the first failure in order is the outcome, and of the root. -/
theorem render_eq_markup (a : Arena) (o : Render.Options) :
    (∀ (id : NodeId) (h : a.AcyclicFrom id), a.render o id = a.markup o id h) ∧
    (∀ (ids : List NodeId) (h : ∀ id ∈ ids, a.AcyclicFrom id),
      a.renderAll o ids = Render.inOrder (ids.pmap (a.markup o) h)) ∧
    (∀ (id : NodeId) (h : a.AcyclicFrom id), a.root = some id →
      a.renderRoot o = a.markup o id h) ∧
    (a.root = none → a.renderRoot o = .ok "") := by
  refine ⟨fun id h => render_eq h, fun ids h => ?_, fun id h hr => ?_, fun hr => ?_⟩
  · rw [renderAll, foldlM_renderOnto_eq ids h]
    cases Render.inOrder (ids.pmap (a.markup o) h) with
    | error e => rfl
    | ok s => simp only [Except.map, String.empty_append]
  · rw [renderRoot, hr]
    exact render_eq h
  · rw [renderRoot, hr]

/-- A void element that lists an id out of range, and an element that lists another. -/
def halfMissing : Arena where
  nodes := #[{ Node.document with children := [1, 2] },
    { Node.element "BR" [] with children := [9] }, { Node.element "p" [] with children := [7] }]
  root := some 0

theorem render_eq_markup_halfMissing :
    halfMissing.AcyclicFrom 0 ∧ halfMissing.AcyclicFrom 1 ∧
      halfMissing.renderAll {} [1, 0] = .error (.nodeNotFound 7) ∧
      halfMissing.render {} 1 = .ok "<BR>" := by
  have h : halfMissing.Acyclic := acyclic_of_later (by decide)
  have br : ∀ h, halfMissing.markup {} 1 h = .ok "<BR>" := fun h => by
    rw [markup_of_get? (n := { Node.element "BR" [] with children := [9] }) h rfl]
    rfl
  have missing : ∀ h, halfMissing.markup {} 7 h = .error (.nodeNotFound 7) := fun h =>
    markup_of_get?_eq_none h rfl
  have para : ∀ h, halfMissing.markup {} 2 h = .error (.nodeNotFound 7) := fun h => by
    rw [markup_of_get? (n := { Node.element "p" [] with children := [7] }) h rfl]
    change halfMissing.nodeMarkup {} _ (Render.inOrder [halfMissing.markup {} 7 _]) = _
    rw [missing]
    rfl
  have root : ∀ h, halfMissing.markup {} 0 h = .error (.nodeNotFound 7) := fun h => by
    rw [markup_of_get? (n := { Node.document with children := [1, 2] }) h rfl]
    change Render.inOrder [halfMissing.markup {} 1 _, halfMissing.markup {} 2 _] = _
    rw [br, para]
    rfl
  obtain ⟨one, several, -⟩ := render_eq_markup halfMissing {}
  refine ⟨h.acyclicFrom 0, h.acyclicFrom 1, ?_, ?_⟩
  · rw [several [1, 0] fun id _ => h.acyclicFrom id]
    change Render.inOrder [halfMissing.markup {} 1 _, halfMissing.markup {} 0 _] = _
    rw [br, root]
    rfl
  · rw [one 1 (h.acyclicFrom 1), br]

end Arena
end MarkupSearch
