/-
# What a walk hands to its visitor

A visitor that keeps a list of the nodes it is called with (`Visitor.traced`) shows what a walk
does besides its outcome. Visits to ids from the left end in one of three ways: at an id out of
range, where there is nothing to call the visitor with, at a call that fails, or at the end of the
list (`Arena.Calls`). A walk makes the calls that the ids in document order ask for, so it stops at
the first of them that is out of range or where the visitor fails, and every id before has had its
one call (`Arena.walk_calls`).

Key definitions: `Visitor.traced`, `Arena.Calls`.
Key theorems: `Arena.exists_calls`, `Arena.Calls.traced`, `Arena.walk_calls`.
-/
import MarkupSearch.Proofs.DocumentOrder

namespace MarkupSearch

/-- The same visits, with a list of the nodes that the visitor has been called with. -/
def Visitor.traced {σ : Type} (visit : Visitor σ) : Visitor (List Node × σ) := fun n =>
  ExceptT.mk fun s => ((visit.at n s.2).1, s.1 ++ [n], (visit.at n s.2).2)

namespace Arena

variable {a : Arena} {σ : Type} {visit : Visitor σ}

/-- Visits to ids from the left, from a state on: the nodes that the visitor is called with, each
with the state that the call before has left, and what the visits come to. -/
inductive Calls (a : Arena) (visit : Visitor σ) :
    List NodeId → σ → List Node → Except Failure Unit × σ → Prop where
  | atEnd (s : σ) : Calls a visit [] s [] (.ok (), s)
  | missing {id : NodeId} {ids : List NodeId} {s : σ} (none : a.get? id = none) :
      Calls a visit (id :: ids) s [] (.error (.nodeNotFound id), s)
  | failed {id : NodeId} {ids : List NodeId} {n : Node} {s t : σ} {e : Failure}
      (node : a.get? id = some n) (fails : visit.at n s = (.error e, t)) :
      Calls a visit (id :: ids) s [n] (.error e, t)
  | onwards {id : NodeId} {ids : List NodeId} {n : Node} {s t : σ} {called : List Node}
      {r : Except Failure Unit × σ} (node : a.get? id = some n)
      (passes : visit.at n s = (.ok (), t))
      (rest : Calls a visit ids t called r) : Calls a visit (id :: ids) s (n :: called) r

/-- Visits one after the other make such calls. -/
theorem exists_calls (a : Arena) (visit : Visitor σ) (ids : List NodeId) (s : σ) :
    ∃ called, a.Calls visit ids s called (a.visitAll visit ids s) := by
  induction ids generalizing s with
  | nil => exact ⟨[], .atEnd s⟩
  | cons id ids ih =>
    rw [visitAll, visitOne]
    cases hn : a.get? id with
    | none => exact ⟨[], .missing hn⟩
    | some n =>
      show ∃ called, a.Calls visit (id :: ids) s called (goOn (visit.at n s) (a.visitAll visit ids))
      rcases hv : visit.at n s with ⟨e | ⟨⟩, t⟩
      · exact ⟨[n], .failed hn hv⟩
      · obtain ⟨called, hcalls⟩ := ih t
        exact ⟨n :: called, .onwards hn hv hcalls⟩

namespace Calls

variable {ids : List NodeId} {s : σ} {called : List Node} {r : Except Failure Unit × σ}

/-- Keeping the list changes nothing else, and the list is that of the calls. -/
theorem traced (h : a.Calls visit ids s called r) : ∀ earlier : List Node,
    a.visitAll visit.traced ids (earlier, s) = (r.1, earlier ++ called, r.2) := by
  -- a call of the visitor that keeps the list, in terms of the one that does not
  have call : ∀ (id : NodeId) (n : Node) (s : σ) (earlier : List Node), a.get? id = some n →
      a.visitOne visit.traced id (earlier, s) =
        ((visit.at n s).1, earlier ++ [n], (visit.at n s).2) := by
    intro id n s earlier hn
    rw [visitOne, hn]
    rfl
  induction h with
  | atEnd s =>
    intro earlier
    rw [visitAll, List.append_nil]
  | missing hn =>
    intro earlier
    rw [visitAll, visitOne, hn, List.append_nil]
    rfl
  | failed hn hv =>
    intro earlier
    rw [visitAll, call _ _ _ _ hn, hv]
    rfl
  | @onwards id ids n s t called r hn hv _ ih =>
    intro earlier
    have first : a.visitOne visit.traced id (earlier, s) = (.ok (), earlier ++ [n], t) := by
      rw [call _ _ _ _ hn, hv]
    rw [visitAll, first, goOn, ih, List.append_assoc, List.singleton_append]

/-- Visits that come to the end of the list have called the visitor with the node of each id. -/
theorem of_ok (h : a.Calls visit ids s called r) (hr : r.1 = .ok ()) :
    called.map some = ids.map a.get? := by
  induction h with
  | atEnd s => rfl
  | missing hn => exact absurd hr (by simp)
  | failed hn hv => exact absurd hr (by simp)
  | onwards hn hv _ ih => rw [List.map_cons, List.map_cons, hn, ih hr]

/-- Visits that fail have called the visitor with the nodes of the ids before the one where they
fail: it is out of range, or the visitor has been called with its node too and has failed. -/
theorem of_error {e : Failure} (h : a.Calls visit ids s called r) (hr : r.1 = .error e) :
    ∃ before id rest t, ids = before ++ id :: rest ∧ a.visitAll visit before s = (.ok (), t) ∧
      (a.get? id = none ∧ r = (.error (.nodeNotFound id), t) ∧
          called.map some = before.map a.get? ∨
        ∃ n, a.get? id = some n ∧ visit.at n t = r ∧
          called.map some = (before ++ [id]).map a.get?) := by
  induction h with
  | atEnd s => exact absurd hr (by simp)
  | @missing id ids s hn => exact ⟨[], id, ids, s, rfl, rfl, .inl ⟨hn, rfl, rfl⟩⟩
  | @failed id ids n s t e hn hv =>
    refine ⟨[], id, ids, s, rfl, rfl, .inr ⟨n, hn, hv, ?_⟩⟩
    rw [List.nil_append, List.map_singleton, List.map_singleton, hn]
  | @onwards id ids n s t called r hn hv _ ih =>
    obtain ⟨before, x, rest, u, hids, hvisits, hstop⟩ := ih hr
    have first : a.visitAll visit (id :: before) s = (.ok (), u) := by
      rw [visitAll, visitOne, hn]
      show goOn (visit.at n s) (a.visitAll visit before) = (.ok (), u)
      rw [hv, goOn, hvisits]
    refine ⟨id :: before, x, rest, u, by rw [hids, List.cons_append], first, ?_⟩
    rcases hstop with ⟨hx, hr, hcalled⟩ | ⟨m, hm, hr, hcalled⟩
    · refine .inl ⟨hx, hr, ?_⟩
      rw [List.map_cons, List.map_cons, hn, hcalled]
    · refine .inr ⟨m, hm, hr, ?_⟩
      rw [List.cons_append, List.map_cons, List.map_cons, hn, hcalled]

end Calls

/-- **A walk calls its visitor in document order up to the first failure.** It makes the calls that
the ids from the start down in document order ask for, one for each id, with the node and the state
so far. If it comes to the end it has made them all; if it fails, it is at an id out of range, and
the visitor has been called for the ids before, or in a call of the visitor, which has been called
for the id itself too. -/
theorem walk_calls {start : NodeId} (h : a.AcyclicFrom start) (visit : Visitor σ) (s : σ) :
    ∃ called : List Node,
      a.Calls visit (a.preorder start h) s called (a.walk start visit s) ∧
      a.walk start visit.traced ([], s) =
        ((a.walk start visit s).1, called, (a.walk start visit s).2) ∧
      ((a.walk start visit s).1 = .ok () → called.map some = (a.preorder start h).map a.get?) ∧
      ∀ e, (a.walk start visit s).1 = .error e →
        ∃ before id rest t, a.preorder start h = before ++ id :: rest ∧
          a.visitAll visit before s = (.ok (), t) ∧
          (a.get? id = none ∧ a.walk start visit s = (.error (.nodeNotFound id), t) ∧
              called.map some = before.map a.get? ∨
            ∃ n, a.get? id = some n ∧ visit.at n t = a.walk start visit s ∧
              called.map some = (before ++ [id]).map a.get?) := by
  rw [walk_eq_visitAll h, walk_eq_visitAll h]
  obtain ⟨called, hcalls⟩ := exists_calls a visit (a.preorder start h) s
  refine ⟨called, hcalls, ?_, hcalls.of_ok, fun e he => hcalls.of_error he⟩
  rw [hcalls.traced, List.nil_append]

/-- Counts nodes, and fails at a comment. -/
def countToComment : Visitor Nat := fun n => do
  if n.kind = .comment then
    throw .noRoot
  modifyThe Nat (· + 1)

/-- A text below two nodes, one of which lists an id out of range and the other a comment. -/
def commented : Arena where
  nodes := #[{ Node.element "p" [] with children := [1, 9, 2] },
    { Node.element "b" [] with children := [3] },
    { Node.element "i" [] with children := [3, 4, 3] },
    Node.text "x", Node.comment "y"]
  root := some 0

theorem walk_calls_commented :
    (∃ (h : commented.AcyclicFrom 0) (called : List Node),
      commented.Calls countToComment (commented.preorder 0 h) 0 called
        (.error (.nodeNotFound 9), 3) ∧
      called.map some = [0, 1, 3].map commented.get?) ∧
    ∃ (h : commented.AcyclicFrom 2) (called : List Node),
      commented.Calls countToComment (commented.preorder 2 h) 0 called (.error .noRoot, 2) ∧
      called.map some = [2, 3, 4].map commented.get? := by
  have h : commented.Acyclic := acyclic_of_later (by decide)
  have missing : commented.walk 0 countToComment 0 = (.error (.nodeNotFound 9), 3) := by
    decide +kernel
  have failed : commented.walk 2 countToComment 0 = (.error .noRoot, 2) := by decide +kernel
  obtain ⟨called, hcalls, htraced, -⟩ := walk_calls (h.acyclicFrom 0) countToComment 0
  obtain ⟨called', hcalls', htraced', -⟩ := walk_calls (h.acyclicFrom 2) countToComment 0
  rw [missing] at hcalls htraced
  rw [failed] at hcalls' htraced'
  refine ⟨⟨h.acyclicFrom 0, called, hcalls, ?_⟩, h.acyclicFrom 2, called', hcalls', ?_⟩
  · have hc : called = (commented.walk 0 countToComment.traced ([], 0)).2.1 := by rw [htraced]
    rw [hc]
    decide +kernel
  · have hc : called' = (commented.walk 2 countToComment.traced ([], 0)).2.1 := by rw [htraced']
    rw [hc]
    decide +kernel

end Arena
end MarkupSearch
