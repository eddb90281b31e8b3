/-
# Walking the arena in document order

A walk visits a node, then its children one after the other, each with all that lies below it. It
keeps the visits that wait on a stack, first to come on top. The visitor has a state of its own and
may fail; the walk stops at the first id out of range and at the first failure of the visitor, and
what the visitor did until then stays done.

Key definitions: `Visitor`, `Arena.walkRound`, `Arena.walk`, `Arena.textContent`.
Key theorem: `Arena.pathsFrom_of_walkRound`.
-/
import MarkupSearch.Arena.Paths
import MarkupSearch.Loop

namespace MarkupSearch

/-- What is done at each node of a walk, with a state that outlives a failure. -/
abbrev Visitor (σ : Type) := Node → ExceptT Failure (StateM σ) Unit

/-- The outcome of a visit and the state after it. -/
def Visitor.at {σ : Type} (visit : Visitor σ) (n : Node) (s : σ) : Except Failure Unit × σ :=
  Id.run ((visit n).run.run s)

namespace Arena

/-- One round of a walk: the visit on top of the stack. -/
def walkRound {σ : Type} (a : Arena) (visit : Visitor σ) :
    List Visit × σ → Round (List Visit × σ) (Except Failure Unit × σ)
  | ([], s) => .done (.ok (), s)
  | (v :: waiting, s) =>
    match a.get? v.id with
    | none => .done (.error (.nodeNotFound v.id), s)
    | some n =>
      match visit.at n s with
      | (.ok (), s) => .next (v.below n.children ++ waiting, s)
      | (.error e, s) => .done (.error e, s)

/-- Each round takes one of the paths that start with what waits. -/
theorem pathsFrom_of_walkRound {σ : Type} {a : Arena} {visit : Visitor σ}
    {s t : List Visit × σ} (h : a.walkRound visit s = .next t) :
    a.pathsFrom s.1 = a.pathsFrom t.1 + 1 := by
  obtain ⟨waiting, s⟩ := s
  cases waiting with
  | nil => simp [walkRound] at h
  | cons v waiting =>
    simp only [walkRound] at h
    split at h
    · simp at h
    · next n hn =>
      split at h
      · injection h with h
        subst h
        simp only [pathsFrom_append, pathsFrom_cons, pathCount_eq a v, childIds_of_get? hn]
        omega
      · simp at h

theorem pathsFrom_lt_of_walkRound {σ : Type} {a : Arena} {visit : Visitor σ}
    {s t : List Visit × σ} (h : a.walkRound visit s = .next t) :
    a.pathsFrom t.1 < a.pathsFrom s.1 := by
  rw [pathsFrom_of_walkRound h]
  omega

/-- Works through a stack of visits. -/
def walkLoop {σ : Type} (a : Arena) (visit : Visitor σ) :
    Loop (List Visit × σ) (Except Failure Unit × σ) where
  round := a.walkRound visit
  weight s := a.pathsFrom s.1
  lighter := pathsFrom_lt_of_walkRound

/-- Visits a node and all below it in document order. -/
def walk {σ : Type} (a : Arena) (start : NodeId) (visit : Visitor σ) (s : σ) :
    Except Failure Unit × σ :=
  (a.walkLoop visit).run (a.visits [start], s)

/-- Appends the data of text nodes to what has been gathered. -/
def gatherText : Visitor String := fun n => do
  if n.isText then
    modifyThe String (· ++ n.value)

/-- The data of all text nodes from a node down, in document order, without blanks at the ends. -/
def textContent (a : Arena) (id : NodeId) : Except Failure String :=
  match a.walk id gatherText "" with
  | (.ok (), text) => .ok (Text.trim text)
  | (.error e, _) => .error e

end Arena
end MarkupSearch
