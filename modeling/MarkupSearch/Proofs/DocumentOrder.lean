/-
# A walk goes in document order

Where no cycle can be reached, the ids that a walk comes to can be listed by recursion on what lies
below an id (`Arena.preorder`): the id, then what its children come to, one after the other. A walk
keeps the siblings that wait on all levels on one stack instead. Working off what is on top of the
stack visits the listed ids and goes on with the rest of the stack, or stops where a visit does
(`walks_preorder`), so a walk is nothing but the visits to the listed ids (`walk_eq_visitAll`).

Key definitions: `Arena.preorder`, `Arena.visitAll`, `Arena.Walks`.
Key theorems: `Arena.walks_preorder`, `Arena.walk_eq_visitAll`.
-/
import MarkupSearch.Arena.Walk
import MarkupSearch.Proofs.Links

namespace MarkupSearch
namespace Arena

variable {a : Arena} {σ : Type} {visit : Visitor σ}

/-- The ids from one down in document order. -/
def preorder (a : Arena) (id : NodeId) (h : a.AcyclicFrom id) : List NodeId :=
  id :: (a.childIds id).attach.flatMap fun c => a.preorder c.1 (h.child c.2)
termination_by (⟨id, h⟩ : {id : NodeId // a.AcyclicFrom id})
decreasing_by exact c.2

theorem preorder_eq {id : NodeId} (h : a.AcyclicFrom id) :
    a.preorder id h =
      id :: ((a.childIds id).pmap a.preorder fun _ hc => h.child hc).flatten := by
  rw [preorder, List.pmap_eq_map_attach, List.flatMap_def]

/-! ### Visits one after the other -/

/-- Goes on with the state that something has left, unless it failed. -/
def goOn (r : Except Failure Unit × σ) (next : σ → Except Failure Unit × σ) :
    Except Failure Unit × σ :=
  match r with
  | (.ok (), s) => next s
  | (.error e, s) => (.error e, s)

theorem goOn_goOn (r : Except Failure Unit × σ) (f g : σ → Except Failure Unit × σ) :
    goOn (goOn r f) g = goOn r fun s => goOn (f s) g := by
  rcases r with ⟨e | ⟨⟩, s⟩
  · rfl
  · rfl

theorem goOn_ok (r : Except Failure Unit × σ) : goOn r (fun s => (.ok (), s)) = r := by
  rcases r with ⟨e | ⟨⟩, s⟩
  · rfl
  · rfl

/-- The visit to an id, which fails when there is no such node. -/
def visitOne (a : Arena) (visit : Visitor σ) (id : NodeId) (s : σ) : Except Failure Unit × σ :=
  match a.get? id with
  | none => (.error (.nodeNotFound id), s)
  | some n => visit.at n s

/-- Visits to ids one after the other, each with the state that the one before has left, up to the
first that fails. -/
def visitAll (a : Arena) (visit : Visitor σ) : List NodeId → σ → Except Failure Unit × σ
  | [], s => (.ok (), s)
  | id :: ids, s => goOn (a.visitOne visit id s) (a.visitAll visit ids)

theorem visitAll_append (ids rest : List NodeId) (s : σ) :
    a.visitAll visit (ids ++ rest) s =
      goOn (a.visitAll visit ids s) (a.visitAll visit rest) := by
  induction ids generalizing s with
  | nil => rfl
  | cons id ids ih =>
    rw [List.cons_append, visitAll, visitAll, goOn_goOn]
    congr 1
    exact funext ih

/-- Visits to nodes that are there come to their end when no visit fails. -/
theorem visitAll_ok (hv : ∀ n s, (visit.at n s).1 = .ok ()) {ids : List NodeId}
    (hids : ∀ id ∈ ids, a.InRange id) (s : σ) : (a.visitAll visit ids s).1 = .ok () := by
  induction ids generalizing s with
  | nil => rfl
  | cons id ids ih =>
    obtain ⟨n, hn⟩ := inRange_iff.mp (hids id List.mem_cons_self)
    have hvisit : visit.at n s = (.ok (), (visit.at n s).2) := Prod.ext (hv n s) rfl
    rw [visitAll, visitOne, hn]
    simp only
    rw [hvisit]
    exact ih (fun c hc => hids c (List.mem_cons_of_mem _ hc)) _

/-! ### The stack -/

/-- Working off these visits is visiting these ids, whatever waits below them on the stack. -/
def Walks (a : Arena) (visit : Visitor σ) (vs : List Visit) (ids : List NodeId) : Prop :=
  ∀ waiting s, (a.walkLoop visit).run (vs ++ waiting, s) =
    goOn (a.visitAll visit ids s) fun s => (a.walkLoop visit).run (waiting, s)

theorem walks_nil : Walks a visit [] [] := fun _ _ => rfl

theorem Walks.append {vs ws : List Visit} {ids rest : List NodeId} (hv : Walks a visit vs ids)
    (hw : Walks a visit ws rest) : Walks a visit (vs ++ ws) (ids ++ rest) := by
  intro waiting s
  rw [List.append_assoc, hv, visitAll_append, goOn_goOn]
  congr 1
  exact funext fun s => hw waiting s

/-- One round of a walk: a visit, and then visits to the children. -/
theorem run_walkLoop_cons (v : Visit) (waiting : List Visit) (s : σ) :
    (a.walkLoop visit).run (v :: waiting, s) =
      goOn (a.visitOne visit v.id s) fun s =>
        (a.walkLoop visit).run (v.below (a.childIds v.id) ++ waiting, s) := by
  cases hn : a.get? v.id with
  | none =>
    rw [visitOne, hn]
    exact Loop.run_of_done (by simp only [walkLoop, walkRound, hn, goOn])
  | some n =>
    rw [visitOne, hn, childIds_of_get? hn]
    simp only
    rcases hr : visit.at n s with ⟨e | ⟨⟩, s'⟩
    · exact Loop.run_of_done (by simp only [walkLoop, walkRound, hn, hr, goOn])
    · exact Loop.run_of_next (by simp only [walkLoop, walkRound, hn, hr])

/-- A visit and what the visits to the children come to. -/
theorem walks_singleton {v : Visit} {ids : List NodeId}
    (h : Walks a visit (v.below (a.childIds v.id)) ids) : Walks a visit [v] (v.id :: ids) := by
  intro waiting s
  rw [List.singleton_append, run_walkLoop_cons, visitAll, goOn_goOn]
  congr 1
  exact funext fun s => h waiting s

theorem walks_pmap {P : NodeId → Prop} {f : NodeId → Visit}
    {list : (id : NodeId) → P id → List NodeId} :
    ∀ (ids : List NodeId) (hids : ∀ id ∈ ids, P id),
      (∀ id (h : id ∈ ids), Walks a visit [f id] (list id (hids id h))) →
      Walks a visit (ids.map f) (ids.pmap list hids).flatten
  | [], _, _ => walks_nil
  | id :: ids, hids, h =>
    Walks.append (h id List.mem_cons_self)
      (walks_pmap ids (fun c hc => hids c (List.mem_cons_of_mem _ hc)) fun c hc =>
        h c (List.mem_cons_of_mem _ hc))

/-- **Working off one visit visits all ids from there down in document order**, when its reach is
enough for all paths from there. -/
theorem walks_preorder (reach : Nat) : ∀ (id : NodeId) (h : a.AcyclicFrom id),
    a.DepthLE reach id → Walks a visit [⟨id, reach⟩] (a.preorder id h) := by
  induction reach with
  | zero =>
    intro id h hd
    have leaf : a.childIds id = [] := hd
    rw [preorder_eq]
    simp only [leaf, List.pmap_nil, List.flatten_nil]
    exact walks_singleton walks_nil
  | succ reach ih =>
    intro id h hd
    rw [preorder_eq]
    refine walks_singleton ?_
    exact walks_pmap (a.childIds id) _ fun c hc => ih c (h.child hc) (hd c hc)

/-- **A walk is the visits to the ids in document order**, up to the first that fails. -/
theorem walk_eq_visitAll {id : NodeId} (h : a.AcyclicFrom id) (visit : Visitor σ) (s : σ) :
    a.walk id visit s = a.visitAll visit (a.preorder id h) s := by
  have run : Walks a visit [⟨id, a.size⟩] (a.preorder id h) := walks_preorder a.size id h h.depthLE
  have done : ∀ s, (a.walkLoop visit).run ([], s) = (.ok (), s) := fun _ => Loop.run_of_done rfl
  rw [walk, visits, List.map_singleton, ← List.append_nil [_], run]
  simp only [done]
  exact goOn_ok _

/-- What is listed from an id down can be reached from there. -/
theorem reflTransGen_of_mem_preorder {id : NodeId} (h : a.AcyclicFrom id) {x : NodeId}
    (hx : x ∈ a.preorder id h) : Relation.ReflTransGen a.Lists id x := by
  rw [preorder_eq, List.mem_cons] at hx
  rcases hx with rfl | hx
  · exact .refl
  · obtain ⟨list, hlist, hx⟩ := List.mem_flatten.mp hx
    obtain ⟨c, hc, rfl⟩ := List.mem_pmap.mp hlist
    exact (reflTransGen_of_mem_preorder (h.child hc) hx).head hc
termination_by (⟨id, h⟩ : {id : NodeId // a.AcyclicFrom id})
decreasing_by exact hc

end Arena
end MarkupSearch
