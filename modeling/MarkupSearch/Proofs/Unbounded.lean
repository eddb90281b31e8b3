/-
# The loops without a bound

The loops that search, walk and render an arena keep visits, which say how far they may still be
followed, and that alone makes them come to an end, on a cycle too. The loops here keep ids and
follow every link, and nothing makes them end on a cycle.

Where no cycle can be reached, a visit that starts out has reach enough for every path, and so has
each visit that it leads to (`Visit.Ample`). Such visits lead to all children, so a round of a loop
with a bound does what the round without one does and leaves ample visits behind
(`searchRound_of_ample`, `walkRound_of_ample`, `Render.round_of_ample`): the bound is never met.

Key definitions: `Arena.Unbounded.searchRound`, `Arena.Unbounded.walkRound`,
`Render.Unbounded.round`, `Arena.Visit.Ample`.
Key theorems: `Arena.searchRound_of_ample`, `Arena.walkRound_of_ample`, `Render.round_of_ample`.
-/
import MarkupSearch.Arena.Walk
import MarkupSearch.Proofs.Links
import MarkupSearch.Proofs.Rounds
import MarkupSearch.Render
import MarkupSearch.Search

namespace MarkupSearch

namespace Arena.Unbounded

/-- One round of a search that keeps ids and follows every link: the id at the head of the queue. -/
def searchRound (a : Arena) (test : Node → Bool) :
    List NodeId × List NodeId → Round (List NodeId × List NodeId) (List NodeId)
  | ([], found) => .done found.reverse
  | (id :: waiting, found) =>
    match a.get? id with
    | none => .next (waiting, found)
    | some n => .next (waiting ++ n.children, if test n then id :: found else found)

/-- One round of a walk that keeps ids and follows every link: the id on top of the stack. -/
def walkRound {σ : Type} (a : Arena) (visit : Visitor σ) :
    List NodeId × σ → Round (List NodeId × σ) (Except Failure Unit × σ)
  | ([], s) => .done (.ok (), s)
  | (id :: waiting, s) =>
    match a.get? id with
    | none => .done (.error (.nodeNotFound id), s)
    | some n =>
      match visit.at n s with
      | (.ok (), s) => .next (n.children ++ waiting, s)
      | (.error e, s) => .done (.error e, s)

end Arena.Unbounded

namespace Render.Unbounded

/-- What is still to be written, however far down. -/
inductive Piece where
  | opening (id : NodeId)
  | closing (id : NodeId)

/-- What is left to write after the opening of a node. -/
def left (id : NodeId) (n : Node) : List Piece :=
  match n.kind with
  | .element => if isVoid n.name then [] else n.children.map .opening ++ [.closing id]
  | .document => n.children.map .opening
  | _ => []

/-- What is written for one piece at once, which does not hang on the bound, and what is left to
write after it. -/
def step (a : Arena) (o : Options) : Piece → Except Failure (String × List Piece)
  | .opening id => do
    let n ← a.get id
    (openNode a o ⟨id, 0⟩ n).map fun (text, _) => (text, left id n)
  | .closing id => do return (endTag (← a.get id), [])

/-- One round of a rendering that follows every link: the piece on top of the stack. -/
def round (a : Arena) (o : Options) :
    List Piece × String → Round (List Piece × String) (Except Failure String)
  | ([], out) => .done (.ok out)
  | (p :: waiting, out) =>
    match step a o p with
    | .error e => .done (.error e)
    | .ok (text, more) => .next (more ++ waiting, out ++ text)

end Render.Unbounded

namespace Arena

variable {a : Arena}

/-! ### Visits with reach enough -/

/-- The reach is enough for all paths from there. -/
def Visit.Ample (a : Arena) (v : Visit) : Prop := a.DepthLE v.reach v.id

/-- An ample visit leads to all children. -/
theorem Visit.Ample.map_id_below {v : Visit} {n : Node} (h : v.Ample a)
    (hn : a.get? v.id = some n) : (v.below n.children).map Visit.id = n.children := by
  rw [← childIds_of_get? hn]
  obtain ⟨id, reach⟩ := v
  cases reach with
  | zero =>
    have leaf : a.childIds id = [] := h
    rw [leaf]
    rfl
  | succ reach =>
    rw [Visit.below, List.map_map]
    exact List.map_id _

/-- The visits that an ample visit leads to are ample. -/
theorem Visit.Ample.below {v w : Visit} {n : Node} (h : v.Ample a) (hn : a.get? v.id = some n)
    (hw : w ∈ v.below n.children) : w.Ample a := by
  rw [← childIds_of_get? hn] at hw
  obtain ⟨id, reach⟩ := v
  cases reach with
  | zero => simp [Visit.below] at hw
  | succ reach =>
    obtain ⟨c, hc, rfl⟩ := List.mem_map.mp hw
    exact h c hc

/-- Where no cycle can be reached, a visit starts out ample. -/
theorem AcyclicFrom.ample {start : NodeId} (h : a.AcyclicFrom start) :
    ∀ v ∈ a.visits [start], v.Ample a := by
  intro v hv
  rw [visits, List.map_singleton, List.mem_singleton] at hv
  rw [hv]
  exact h.depthLE

/-! ### A search -/

/-- The visits that wait, first to come first. -/
def SearchState.visits (s : SearchState) : List Visit := s.waiting.toList

/-- A search with the reach of what waits left out. -/
def SearchState.ids (s : SearchState) : List NodeId × List NodeId :=
  (s.visits.map Visit.id, s.found)

/-- All that waits in a search is ample. -/
def SearchState.Ample (a : Arena) (s : SearchState) : Prop := ∀ v ∈ s.visits, v.Ample a

/-- **A round of a search whose visits are ample follows every link**, and they stay ample. -/
theorem searchRound_of_ample (test : Node → Bool) (s : SearchState) (hs : s.Ample a) :
    Unbounded.searchRound a test s.ids = (a.searchRound test s).map SearchState.ids ∧
      ∀ t, a.searchRound test s = .next t → t.Ample a := by
  cases hq : s.waiting.dequeue? with
  | none =>
    have nothing : s.visits = [] := Queue.toList_of_dequeue?_eq_none hq
    simp [SearchState.ids, searchRound, hq, nothing, Unbounded.searchRound, Round.map]
  | some p =>
    obtain ⟨v, waiting⟩ := p
    have head : s.visits = v :: waiting.toList := Queue.toList_of_dequeue?_eq_some hq
    have hv : v.Ample a := hs v (by rw [head]; exact List.mem_cons_self)
    have hrest : ∀ w ∈ waiting.toList, w.Ample a :=
      fun w hw => hs w (by rw [head]; exact List.mem_cons_of_mem _ hw)
    cases hn : a.get? v.id with
    | none =>
      have round : a.searchRound test s = .next ⟨waiting, s.found⟩ := by
        simp only [searchRound, hq, hn]
      rw [round, SearchState.ids, head, List.map_cons, Unbounded.searchRound, hn]
      refine ⟨rfl, fun t ht => ?_⟩
      injection ht with ht
      rw [← ht]
      exact hrest
    | some n =>
      have round : a.searchRound test s = .next ⟨waiting.enqueueAll (v.below n.children),
          if test n then v.id :: s.found else s.found⟩ := by
        simp only [searchRound, hq, hn]
      rw [round, SearchState.ids, head, List.map_cons, Unbounded.searchRound, hn]
      constructor
      · simp only [Round.map, SearchState.ids, SearchState.visits, Queue.toList_enqueueAll,
          List.map_append, hv.map_id_below hn]
      · intro t ht
        injection ht with ht
        rw [← ht, SearchState.Ample, SearchState.visits, Queue.toList_enqueueAll]
        exact List.forall_mem_append.mpr ⟨hrest, fun _ hw => hv.below hn hw⟩

/-! ### A walk -/

variable {σ : Type}

/-- The stack and the state of a walk, with the reach of what waits left out. -/
def walkIds (s : List Visit × σ) : List NodeId × σ := (s.1.map Visit.id, s.2)

/-- **A round of a walk whose visits are ample follows every link**, and they stay ample. -/
theorem walkRound_of_ample (visit : Visitor σ) (s : List Visit × σ) (hs : ∀ v ∈ s.1, v.Ample a) :
    Unbounded.walkRound a visit (walkIds s) = (a.walkRound visit s).map walkIds ∧
      ∀ t, a.walkRound visit s = .next t → ∀ v ∈ t.1, v.Ample a := by
  obtain ⟨waiting, s⟩ := s
  cases waiting with
  | nil => simp [walkIds, walkRound, Unbounded.walkRound, Round.map]
  | cons v waiting =>
    have hv : v.Ample a := hs v List.mem_cons_self
    have hrest : ∀ w ∈ waiting, w.Ample a := fun w hw => hs w (List.mem_cons_of_mem _ hw)
    rw [walkIds, List.map_cons, Unbounded.walkRound, walkRound]
    cases hn : a.get? v.id with
    | none => exact ⟨rfl, by simp⟩
    | some n =>
      simp only
      rcases visit.at n s with ⟨e | ⟨⟩, s'⟩
      · exact ⟨rfl, by simp⟩
      · constructor
        · simp only [Round.map, walkIds, List.map_append, hv.map_id_below hn]
        · intro t ht
          injection ht with ht
          rw [← ht]
          exact List.forall_mem_append.mpr ⟨fun _ hw => hv.below hn hw, hrest⟩

end Arena

/-! ### A rendering -/

namespace Render

open Arena (Visit)

variable {a : Arena} {o : Options}

/-- A pending piece with its reach left out. -/
def Pending.piece : Pending → Unbounded.Piece
  | .opening v => .opening v.id
  | .closing id => .closing id

/-- A closing is no visit. -/
def Pending.Ample (a : Arena) : Pending → Prop
  | .opening v => v.Ample a
  | .closing _ => True

/-- What is left to write after the opening of a node, by how far it may be followed. -/
def leftUnder (v : Visit) (n : Node) : List Pending :=
  match n.kind with
  | .element =>
    if isVoid n.name then [] else (v.below n.children).map .opening ++ [.closing v.id]
  | .document => (v.below n.children).map .opening
  | _ => []

/-- What is written for a node at once does not hang on its reach, only what is left does. -/
theorem openNode_eq (v : Visit) (n : Node) :
    openNode a o v n = (openNode a o ⟨v.id, 0⟩ n).map fun (text, _) => (text, leftUnder v n) := by
  -- elements and documents alone leave their children, and texts alone can fail
  cases hk : n.kind
  case element =>
    simp only [openNode, leftUnder, hk]
    by_cases hvoid : isVoid n.name = true
    · simp only [if_pos hvoid, Except.map]
    · simp only [if_neg hvoid, Except.map]
  case text =>
    simp only [openNode, leftUnder, hk]
    cases a.parent v.id with
    | error e => rfl
    | ok parent =>
      simp only [bind, Except.bind]
      by_cases hraw : rawBelow parent = true
      · simp only [if_pos hraw, Except.map]
      · simp only [if_neg hraw, Except.map]
  all_goals simp only [openNode, leftUnder, hk, Except.map]

theorem map_piece_leftUnder {v : Visit} {n : Node} (hv : v.Ample a) (hn : a.get? v.id = some n) :
    (leftUnder v n).map Pending.piece = Unbounded.left v.id n := by
  have openings : ((v.below n.children).map Pending.opening).map Pending.piece =
      n.children.map .opening := by
    conv_rhs => rw [← hv.map_id_below hn]
    rw [List.map_map, List.map_map]
    rfl
  cases hk : n.kind
  case element =>
    simp only [leftUnder, Unbounded.left, hk]
    split
    · rfl
    · rw [List.map_append, openings]
      rfl
  case document =>
    simp only [leftUnder, Unbounded.left, hk]
    exact openings
  all_goals simp only [leftUnder, Unbounded.left, hk, List.map_nil]

theorem ample_leftUnder {v : Visit} {n : Node} (hv : v.Ample a) (hn : a.get? v.id = some n) :
    ∀ p ∈ leftUnder v n, p.Ample a := by
  have openings : ∀ p ∈ (v.below n.children).map Pending.opening, p.Ample a :=
    List.forall_mem_map.mpr fun _ hw => hv.below hn hw
  cases hk : n.kind
  case element =>
    simp only [leftUnder, hk]
    split
    · exact List.forall_mem_nil _
    · exact List.forall_mem_append.mpr ⟨openings, List.forall_mem_singleton.mpr trivial⟩
  case document =>
    simp only [leftUnder, hk]
    exact openings
  all_goals
    simp only [leftUnder, hk]
    exact List.forall_mem_nil _

/-- **What an ample piece comes to follows every link**, and what it leaves is ample. -/
theorem step_of_ample (o : Options) {p : Pending} (hp : p.Ample a) :
    (Unbounded.step a o p.piece =
      (step a o p).map fun (text, more) => (text, more.map Pending.piece)) ∧
    ∀ text more, step a o p = .ok (text, more) → ∀ q ∈ more, q.Ample a := by
  cases p with
  | closing id =>
    simp only [Pending.piece, Unbounded.step, step]
    cases a.get id with
    | error e => exact ⟨rfl, by simp [bind, Except.bind]⟩
    | ok n =>
      refine ⟨rfl, fun text more h => ?_⟩
      injection h with h
      injection h with _ h
      rw [← h]
      exact List.forall_mem_nil _
  | opening v =>
    have hv : v.Ample a := hp
    simp only [Pending.piece, Unbounded.step, step, Arena.get]
    cases hn : a.get? v.id with
    | none => exact ⟨rfl, by simp [bind, Except.bind]⟩
    | some n =>
      simp only [bind, Except.bind]
      rw [openNode_eq v n, ← map_piece_leftUnder hv hn]
      cases openNode a o ⟨v.id, 0⟩ n with
      | error e => exact ⟨rfl, by simp [Except.map]⟩
      | ok r =>
        refine ⟨rfl, fun text more h => ?_⟩
        injection h with h
        injection h with _ h
        rw [← h]
        exact ample_leftUnder hv hn

/-- A rendering with the reach of what is pending left out. -/
def pieces (s : List Pending × String) : List Unbounded.Piece × String :=
  (s.1.map Pending.piece, s.2)

/-- **A round of a rendering whose visits are ample follows every link**, and they stay ample. -/
theorem round_of_ample (o : Options) (s : List Pending × String) (hs : ∀ p ∈ s.1, p.Ample a) :
    Unbounded.round a o (pieces s) = (round a o s).map pieces ∧
      ∀ t, round a o s = .next t → ∀ p ∈ t.1, p.Ample a := by
  obtain ⟨waiting, out⟩ := s
  cases waiting with
  | nil => simp [pieces, round, Unbounded.round, Round.map]
  | cons p waiting =>
    have hrest : ∀ q ∈ waiting, q.Ample a := fun q hq => hs q (List.mem_cons_of_mem _ hq)
    obtain ⟨same, stays⟩ := step_of_ample o (hs p List.mem_cons_self)
    rw [pieces, List.map_cons, Unbounded.round, round, same]
    cases hstep : step a o p with
    | error e => exact ⟨rfl, by simp⟩
    | ok r =>
      obtain ⟨text, more⟩ := r
      constructor
      · simp only [Except.map, Round.map, pieces, List.map_append]
      · intro t ht
        injection ht with ht
        rw [← ht]
        exact List.forall_mem_append.mpr ⟨stays text more hstep, hrest⟩

end Render
end MarkupSearch
