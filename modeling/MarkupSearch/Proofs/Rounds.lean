/-
# Counting what a loop takes off what waits

A loop over a queue or a stack takes one thing off it in each round, until nothing waits or a round
stops it. `WorksOff` is the relation of a state to the result that the rounds lead to and to the
number of things taken off on the way, the one at which a round stops the loop among them. It is
said of rounds alone, which need not lead to any result.

A `Loop` comes to its result after no more of them than its weight (`Loop.exists_worksOff`), and
after exactly as many when each round takes one off the weight and nothing stops the loop
(`WorksOff.eq_weight`). Rounds on another kind of state that do the same work off as many
(`WorksOff.transfer`).

Key definitions: `WorksOff`, `Round.map`.
Key theorems: `Loop.exists_worksOff`, `WorksOff.unique`, `WorksOff.eq_weight`,
`WorksOff.transfer`.
-/
import MarkupSearch.Loop

namespace MarkupSearch

variable {σ σ' α α' β : Type}

/-- The rounds lead from a state to a result, and take so many things off what waits. -/
inductive WorksOff (round : σ → Round σ β) (waiting : σ → List α) : σ → Nat → β → Prop where
  | finished {s : σ} {r : β} (nothing : waiting s = []) (done : round s = .done r) :
      WorksOff round waiting s 0 r
  | stopped {s : σ} {r : β} (something : waiting s ≠ []) (done : round s = .done r) :
      WorksOff round waiting s 1 r
  | onwards {s t : σ} {n : Nat} {r : β} (something : waiting s ≠ []) (next : round s = .next t)
      (rest : WorksOff round waiting t n r) : WorksOff round waiting s (n + 1) r

/-- What a round comes to, with the next state read in another way. -/
def Round.map (f : σ → σ') : Round σ β → Round σ' β
  | .next s => .next (f s)
  | .done r => .done r

namespace Loop

/-- **A loop comes to its result**, after no more things taken off than its weight, when what waits
has a weight and nothing else has. -/
theorem exists_worksOff (l : Loop σ β) (waiting : σ → List α)
    (idle : ∀ s, l.weight s = 0 ↔ waiting s = []) (s : σ) :
    ∃ n, n ≤ l.weight s ∧ WorksOff l.round waiting s n (l.run s) := by
  cases h : l.round s with
  | done r =>
    rw [run_of_done h]
    by_cases hw : waiting s = []
    · exact ⟨0, Nat.zero_le _, .finished hw h⟩
    · exact ⟨1, Nat.pos_of_ne_zero (mt (idle s).mp hw), .stopped hw h⟩
  | next t =>
    -- a state that leads on is heavier than another, so something waits there
    have hlt := l.lighter h
    have something : waiting s ≠ [] := fun hw => by rw [(idle s).mpr hw] at hlt; omega
    obtain ⟨n, hn, hrest⟩ := exists_worksOff l waiting idle t
    rw [run_of_next h]
    exact ⟨n + 1, by omega, .onwards something h hrest⟩
termination_by l.weight s

end Loop

namespace WorksOff

variable {round : σ → Round σ β} {waiting : σ → List α} {s : σ} {n : Nat} {r : β}

/-- Rounds leave no choice, so there is one number and one result. -/
theorem unique {n' : Nat} {r' : β} (h : WorksOff round waiting s n r)
    (h' : WorksOff round waiting s n' r') : n = n' ∧ r = r' := by
  induction h generalizing n' with
  | finished nothing done =>
    cases h' with
    | finished _ done' => exact ⟨rfl, Round.done.inj (done.symm.trans done')⟩
    | stopped something _ => exact absurd nothing something
    | onwards something _ _ => exact absurd nothing something
  | stopped something done =>
    cases h' with
    | finished nothing _ => exact absurd nothing something
    | stopped _ done' => exact ⟨rfl, Round.done.inj (done.symm.trans done')⟩
    | onwards _ next _ => rw [done] at next; injection next
  | onwards something next _ ih =>
    cases h' with
    | finished nothing _ => exact absurd nothing something
    | stopped _ done => rw [next] at done; injection done
    | onwards _ next' rest' =>
      obtain rfl := Round.next.inj (next.symm.trans next')
      obtain ⟨rfl, hr⟩ := ih rest'
      exact ⟨rfl, hr⟩

/-- As many things are taken off as a weight says from which each round takes one, unless a round
stops the loop with something waiting. -/
theorem eq_weight (h : WorksOff round waiting s n r) (weight : σ → Nat) (whole : β → Prop)
    (idle : ∀ s, waiting s = [] → weight s = 0)
    (falls : ∀ s t, round s = .next t → weight s = weight t + 1)
    (ends : ∀ s r, round s = .done r → whole r → waiting s = []) (hr : whole r) :
    n = weight s := by
  induction h with
  | finished nothing _ => exact (idle _ nothing).symm
  | stopped something done => exact absurd (ends _ _ done hr) something
  | onwards _ next _ ih => rw [falls _ _ next, ih hr]

/-- Rounds that do the same on states read in another way lead to the same result and take as much
off, as long as the states stay such that they do the same. -/
theorem transfer {round' : σ' → Round σ' β} {waiting' : σ' → List α'}
    (h : WorksOff round waiting s n r) (f : σ → σ') (fit : σ → Prop)
    (empty : ∀ s, waiting' (f s) = [] ↔ waiting s = [])
    (same : ∀ s, fit s → round' (f s) = (round s).map f ∧ ∀ t, round s = .next t → fit t)
    (hs : fit s) : WorksOff round' waiting' (f s) n r := by
  induction h with
  | finished nothing done =>
    exact .finished ((empty _).mpr nothing) (by rw [(same _ hs).1, done, Round.map])
  | stopped something done =>
    exact .stopped (mt (empty _).mp something) (by rw [(same _ hs).1, done, Round.map])
  | onwards something next _ ih =>
    exact .onwards (mt (empty _).mp something) (by rw [(same _ hs).1, next, Round.map])
      (ih ((same _ hs).2 _ next))

end WorksOff
end MarkupSearch
