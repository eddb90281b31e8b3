/-
# The loops end, with exact numbers of rounds

Where no cycle can be reached, the paths from the start measure the loops that search, walk and
render. What waits in a loop weighs as much as there are paths that start with it, a round of a
search or of a walk takes one path off, and a round of a rendering at least one of two for each
path. So a search takes as many ids off its queue as there are paths, a walk no more and as many
when it does not fail, and a rendering no more than two for each path. Since no visit runs out of
reach, all this is true of the loops without a bound too (`loops_end`), of which the search ends
nowhere else (`worksOff_search_iff`).

Key theorems: `Arena.worksOff_search`, `Arena.worksOff_search_iff`, `Arena.worksOff_walk`,
`Render.worksOff_render`, `Arena.loops_end`.
-/
import MarkupSearch.Proofs.PathNumber
import MarkupSearch.Proofs.Unbounded

namespace MarkupSearch
namespace Arena

variable {a : Arena}

/-- The visits that start out are weighed with the number of paths. -/
theorem AcyclicFrom.pathsFrom_visits {start : NodeId} (h : a.AcyclicFrom start) :
    a.pathsFrom (a.visits [start]) = (a.paths start).ncard := by
  rw [visits, List.map_singleton, pathsFrom_cons, pathsFrom_nil, Nat.add_zero,
    ncard_paths h.depthLE]

theorem pathsFrom_eq_zero_iff {vs : List Visit} : a.pathsFrom vs = 0 ↔ vs = [] := by
  cases vs with
  | nil => simp
  | cons v vs =>
    have := a.pathCount_pos v
    simp only [pathsFrom_cons, reduceCtorEq, iff_false]
    omega

/-! ### A search -/

/-- A search ends only when nothing waits. -/
theorem visits_of_searchRound_done {test : Node → Bool} {s : SearchState} {r : List NodeId}
    (h : a.searchRound test s = .done r) : s.visits = [] := by
  cases hq : s.waiting.dequeue? with
  | none => exact Queue.toList_of_dequeue?_eq_none hq
  | some p =>
    simp only [searchRound, hq] at h
    split at h <;> simp at h

/-- **A search takes as many ids off its queue as there are paths**, with and without a bound. -/
theorem worksOff_search {start : NodeId} (h : a.AcyclicFrom start) (test : Node → Bool) :
    WorksOff (a.searchRound test) SearchState.visits ⟨.ofList (a.visits [start]), []⟩
        (a.paths start).ncard (a.find (some start) test) ∧
      WorksOff (Unbounded.searchRound a test) Prod.fst ([start], [])
        (a.paths start).ncard (a.find (some start) test) := by
  let start' : SearchState := ⟨.ofList (a.visits [start]), []⟩
  have first : start'.visits = a.visits [start] := Queue.toList_ofList _
  have ends : ∃ n, n ≤ a.pathsFrom start'.visits ∧
      WorksOff (a.searchRound test) SearchState.visits start' n (a.find (some start) test) :=
    (a.searchLoop test).exists_worksOff SearchState.visits (fun _ => pathsFrom_eq_zero_iff) start'
  obtain ⟨n, -, bounded⟩ := ends
  -- an id out of range ends nothing, so the number does not hang on the result
  have number : n = a.pathsFrom start'.visits :=
    bounded.eq_weight (fun s => a.pathsFrom s.visits) (fun _ => True)
      (fun _ => pathsFrom_eq_zero_iff.mpr) (fun _ _ => pathsFrom_of_searchRound)
      (fun _ _ hdone _ => visits_of_searchRound_done hdone) trivial
  have free : WorksOff (Unbounded.searchRound a test) Prod.fst start'.ids n
      (a.find (some start) test) :=
    bounded.transfer SearchState.ids (SearchState.Ample a) (fun _ => List.map_eq_nil_iff)
      (searchRound_of_ample test) (by rw [SearchState.Ample, first]; exact h.ample)
  rw [first, h.pathsFrom_visits] at number
  rw [SearchState.ids, first, number] at free
  rw [number] at bounded
  exact ⟨bounded, free⟩

/-- A search without a bound that ends has met no cycle. -/
theorem acyclicFrom_of_worksOff {test : Node → Bool} {s : List NodeId × List NodeId} {n : Nat}
    {found : List NodeId} (h : WorksOff (Unbounded.searchRound a test) Prod.fst s n found) :
    ∀ id ∈ s.1, a.AcyclicFrom id := by
  -- by induction on the rounds: what a round puts in the queue are the children of what it takes
  induction h with
  | finished nothing _ => simp [nothing]
  | @stopped s _ something done =>
    obtain ⟨waiting, found⟩ := s
    cases waiting with
    | nil => exact absurd rfl something
    | cons id waiting =>
      rw [Unbounded.searchRound] at done
      split at done <;> injection done
  | @onwards s t _ _ something next _ ih =>
    obtain ⟨waiting, found⟩ := s
    cases waiting with
    | nil => exact absurd rfl something
    | cons id waiting =>
      have queue : t.1 = waiting ++ a.childIds id := by
        rw [Unbounded.searchRound] at next
        split at next
        · next hn =>
          injection next with next
          rw [← next, childIds_of_get?_eq_none hn, List.append_nil]
        · next n hn =>
          injection next with next
          rw [← next, childIds_of_get? hn]
      rw [queue, List.forall_mem_append] at ih
      exact List.forall_mem_cons.mpr ⟨acyclicFrom_of_children ih.2, ih.1⟩

/-- **A search without a bound ends exactly where no cycle can be reached.** -/
theorem worksOff_search_iff {start : NodeId} (test : Node → Bool) (n : Nat)
    (found : List NodeId) :
    WorksOff (Unbounded.searchRound a test) Prod.fst ([start], []) n found ↔
      a.AcyclicFrom start ∧ n = (a.paths start).ncard ∧ found = a.find (some start) test := by
  constructor
  · intro h
    have hstart : a.AcyclicFrom start := acyclicFrom_of_worksOff h start List.mem_cons_self
    exact ⟨hstart, h.unique (worksOff_search hstart test).2⟩
  · rintro ⟨h, rfl, rfl⟩
    exact (worksOff_search h test).2

/-! ### A walk -/

variable {σ : Type}

/-- A walk that does not fail ends when nothing waits. -/
theorem waiting_of_walkRound_done {visit : Visitor σ} {s : List Visit × σ}
    {r : Except Failure Unit × σ} (h : a.walkRound visit s = .done r) (hr : r.1 = .ok ()) :
    s.1 = [] := by
  obtain ⟨waiting, s⟩ := s
  cases waiting with
  | nil => rfl
  | cons v waiting =>
    rw [walkRound] at h
    split at h
    · injection h with h
      rw [← h] at hr
      simp at hr
    · split at h
      · simp at h
      · injection h with h
        rw [← h] at hr
        simp at hr

/-- **A walk takes no more ids off its stack than there are paths**, and as many when it does not
fail, with and without a bound. -/
theorem worksOff_walk {start : NodeId} (h : a.AcyclicFrom start) (visit : Visitor σ) (s : σ) :
    ∃ pops, pops ≤ (a.paths start).ncard ∧
      ((a.walk start visit s).1 = .ok () → pops = (a.paths start).ncard) ∧
      WorksOff (a.walkRound visit) Prod.fst (a.visits [start], s) pops (a.walk start visit s) ∧
      WorksOff (Unbounded.walkRound a visit) Prod.fst ([start], s) pops
        (a.walk start visit s) := by
  have ends : ∃ pops, pops ≤ a.pathsFrom (a.visits [start]) ∧
      WorksOff (a.walkRound visit) Prod.fst (a.visits [start], s) pops (a.walk start visit s) :=
    (a.walkLoop visit).exists_worksOff Prod.fst (fun _ => pathsFrom_eq_zero_iff)
      (a.visits [start], s)
  obtain ⟨pops, most, bounded⟩ := ends
  rw [h.pathsFrom_visits] at most
  refine ⟨pops, most, fun hr => ?_, bounded, ?_⟩
  · rw [← h.pathsFrom_visits]
    exact bounded.eq_weight (fun s => a.pathsFrom s.1) (fun r => r.1 = .ok ())
      (fun _ => pathsFrom_eq_zero_iff.mpr) (fun _ _ => pathsFrom_of_walkRound)
      (fun _ _ => waiting_of_walkRound_done) hr
  · exact bounded.transfer walkIds (fun s => ∀ v ∈ s.1, v.Ample a) (fun _ => List.map_eq_nil_iff)
      (walkRound_of_ample visit) h.ample

end Arena

/-! ### A rendering -/

namespace Render

variable {a : Arena}

theorem weight_eq_zero_iff {ps : List Pending} : weight a ps = 0 ↔ ps = [] := by
  cases ps with
  | nil => simp [weight]
  | cons p ps =>
    cases p with
    | opening v =>
      have := a.pathCount_pos v
      simp only [weight, reduceCtorEq, iff_false]
      omega
    | closing id =>
      simp only [weight, reduceCtorEq, iff_false]
      omega

/-- **A rendering takes no more than two pieces off its stack for each path**, with and without a
bound. -/
theorem worksOff_render {start : NodeId} (h : a.AcyclicFrom start) (o : Options) (out : String) :
    ∃ pops, pops ≤ 2 * (a.paths start).ncard ∧
      WorksOff (round a o) Prod.fst ((a.visits [start]).map .opening, out) pops
        (a.renderOnto o out start) ∧
      WorksOff (Unbounded.round a o) Prod.fst ([.opening start], out) pops
        (a.renderOnto o out start) := by
  have ends : ∃ pops, pops ≤ weight a ((a.visits [start]).map .opening) ∧
      WorksOff (round a o) Prod.fst ((a.visits [start]).map .opening, out) pops
        (a.renderOnto o out start) :=
    (loop a o).exists_worksOff Prod.fst (fun _ => weight_eq_zero_iff)
      ((a.visits [start]).map .opening, out)
  obtain ⟨pops, most, bounded⟩ := ends
  rw [weight_map_opening, h.pathsFrom_visits] at most
  refine ⟨pops, most, bounded, bounded.transfer pieces (fun s => ∀ p ∈ s.1, p.Ample a)
    (fun _ => List.map_eq_nil_iff) (round_of_ample o) fun p hp => ?_⟩
  obtain ⟨v, hv, rfl⟩ := List.mem_map.mp hp
  exact h.ample v hv

end Render

/-! ### All three -/

namespace Arena

variable {a : Arena}

/-- **The loops end where no cycle can be reached, after numbers of rounds that the paths give.**
There are finitely many paths from the start. A search, whatever it tests for, takes exactly as many
ids off its queue. A walk takes no more off its stack, and exactly as many when nothing fails; a
rendering takes at most two for each path. So do the loops that follow every link without a bound,
with the same results. -/
theorem loops_end {start : NodeId} (h : a.AcyclicFrom start) :
    (a.paths start).Finite ∧
    (∀ test : Node → Bool,
      WorksOff (a.searchRound test) SearchState.visits ⟨.ofList (a.visits [start]), []⟩
        (a.paths start).ncard (a.find (some start) test) ∧
      WorksOff (Unbounded.searchRound a test) Prod.fst ([start], [])
        (a.paths start).ncard (a.find (some start) test)) ∧
    (∀ {σ : Type} (visit : Visitor σ) (s : σ), ∃ pops, pops ≤ (a.paths start).ncard ∧
      ((a.walk start visit s).1 = .ok () → pops = (a.paths start).ncard) ∧
      WorksOff (a.walkRound visit) Prod.fst (a.visits [start], s) pops (a.walk start visit s) ∧
      WorksOff (Unbounded.walkRound a visit) Prod.fst ([start], s) pops
        (a.walk start visit s)) ∧
    ∀ (o : Render.Options) (out : String), ∃ pops, pops ≤ 2 * (a.paths start).ncard ∧
      WorksOff (Render.round a o) Prod.fst ((a.visits [start]).map .opening, out) pops
        (a.renderOnto o out start) ∧
      WorksOff (Render.Unbounded.round a o) Prod.fst ([.opening start], out) pops
        (a.renderOnto o out start) :=
  ⟨finite_paths h, worksOff_search h, worksOff_walk h, Render.worksOff_render h⟩

/-- A node that lists a child twice and an id out of range, and one that lists it and itself. -/
def entangled : Arena where
  nodes := #[{ Node.element "p" [] with children := [1, 9, 2, 1] },
    { Node.element "b" [] with children := [3] }, { Node.element "br" [] with children := [3] },
    Node.text "x", { Node.element "i" [] with children := [0, 4] }]
  root := some 4

theorem loops_end_entangled :
    entangled.AcyclicFrom 0 ∧ entangled.AcyclicFrom 1 ∧ ¬ entangled.AcyclicFrom 4 ∧
      (entangled.paths 0).ncard = 8 ∧
      WorksOff (Unbounded.searchRound entangled Node.isText) Prod.fst ([0], []) 8 [3, 3, 3] ∧
      (∃ pops, pops ≤ 8 ∧ WorksOff (Unbounded.walkRound entangled gatherText) Prod.fst ([0], "")
        pops (.error (.nodeNotFound 9), "x")) ∧
      WorksOff (Unbounded.walkRound entangled gatherText) Prod.fst ([1], "") 2 (.ok (), "x") ∧
      ∃ pops, pops ≤ 4 ∧ WorksOff (Render.Unbounded.round entangled {}) Prod.fst
        ([.opening 1], "") pops (.ok "<b>x</b>") := by
  have h0 : entangled.AcyclicFrom 0 := by decide
  have h1 : entangled.AcyclicFrom 1 := by decide
  have h4 : ¬ entangled.AcyclicFrom 4 := by decide
  have paths0 : (entangled.paths 0).ncard = 8 := (ncard_paths h0.depthLE).trans (by decide)
  have paths1 : (entangled.paths 1).ncard = 2 := (ncard_paths h1.depthLE).trans (by decide)
  have found : entangled.find (some 0) Node.isText = [3, 3, 3] := by decide +kernel
  have missing : entangled.walk 0 gatherText "" = (.error (.nodeNotFound 9), "x") := by
    decide +kernel
  have walked : entangled.walk 1 gatherText "" = (.ok (), "x") := by decide +kernel
  have rendered : entangled.renderOnto {} "" 1 = .ok "<b>x</b>" := by decide +kernel
  obtain ⟨-, searches, walks, -⟩ := loops_end h0
  obtain ⟨-, -, walks', renders⟩ := loops_end h1
  obtain ⟨-, search⟩ := searches Node.isText
  obtain ⟨pops, most, -, -, walk⟩ := walks gatherText ""
  obtain ⟨pops', -, whole, -, walk'⟩ := walks' gatherText ""
  obtain ⟨pops'', most'', -, render⟩ := renders {} ""
  rw [found, paths0] at search
  rw [missing] at walk
  rw [whole (by rw [walked]), walked, paths1] at walk'
  rw [rendered] at render
  rw [paths0] at most
  rw [paths1] at most''
  exact ⟨h0, h1, h4, paths0, search, ⟨pops, most, walk⟩, walk', ⟨pops'', most'', render⟩⟩

end Arena
end MarkupSearch
