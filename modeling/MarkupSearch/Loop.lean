/-
# Loops that work off what waits

A loop goes round by round: a round either leads to a next state or is done with a result. Each
state has a weight, and a next state is lighter, so every loop comes to its result. The weight is
there for that reason only and is not computed when a loop runs.

Key definitions: `Round`, `Loop`, `Loop.run`.
Key theorems: `Loop.run_of_next`, `Loop.run_of_done`.
-/

namespace MarkupSearch

/-- What a round comes to. -/
inductive Round (σ β : Type) where
  | next (state : σ)
  | done (result : β)

/-- What a loop does in a round, with a weight of states that shows that it ends. -/
structure Loop (σ β : Type) where
  round : σ → Round σ β
  weight : σ → Nat
  /-- A next state is lighter. -/
  lighter : ∀ {s t : σ}, round s = .next t → weight t < weight s

namespace Loop

variable {σ β : Type}

/-- The result that a loop comes to from a state. -/
def run (l : Loop σ β) (s : σ) : β :=
  match _h : l.round s with
  | .next t => run l t
  | .done r => r
termination_by l.weight s
decreasing_by exact l.lighter ‹_›

theorem run_of_next {l : Loop σ β} {s t : σ} (h : l.round s = .next t) : l.run s = l.run t := by
  rw [run]
  split
  · next t' h' => rw [h] at h'; injection h' with h'; rw [h']
  · next r h' => rw [h] at h'; injection h'

theorem run_of_done {l : Loop σ β} {s : σ} {r : β} (h : l.round s = .done r) : l.run s = r := by
  rw [run]
  split
  · next t h' => rw [h] at h'; injection h'
  · next r' h' => rw [h] at h'; injection h' with h'; rw [h']

end Loop
end MarkupSearch
