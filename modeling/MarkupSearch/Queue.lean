/-
# Queue

First in, first out. The queue is kept as two lists, the front in order and the back reversed, so
that both ends are cheap; `toList` is what it holds, oldest first, and each operation is described
by what it does to that list.

Key definitions: `Queue`, `Queue.toList`, `Queue.dequeue?`.
Key theorems: `Queue.toList_enqueueAll`, `Queue.toList_of_dequeue?_eq_some`.
-/

namespace MarkupSearch

structure Queue (α : Type) where
  front : List α
  back : List α

namespace Queue

variable {α : Type}

def empty : Queue α := ⟨[], []⟩

/-- What waits, oldest first. -/
def toList (q : Queue α) : List α := q.front ++ q.back.reverse

def ofList (xs : List α) : Queue α := ⟨xs, []⟩

def enqueue (q : Queue α) (x : α) : Queue α := ⟨q.front, x :: q.back⟩

/-- Enqueues one after the other. -/
def enqueueAll (q : Queue α) (xs : List α) : Queue α := ⟨q.front, xs.reverseAux q.back⟩

/-- The oldest and the queue without it. -/
def dequeue? (q : Queue α) : Option (α × Queue α) :=
  match q.front with
  | x :: front => some (x, ⟨front, q.back⟩)
  | [] =>
    match q.back.reverse with
    | x :: front => some (x, ⟨front, []⟩)
    | [] => none

def peek? (q : Queue α) : Option α := q.toList.head?

def size (q : Queue α) : Nat := q.front.length + q.back.length

def isEmpty (q : Queue α) : Bool := q.front.isEmpty && q.back.isEmpty

/-- All that waits, oldest first, and the queue left empty. -/
def drain (q : Queue α) : List α × Queue α := (q.toList, empty)

@[simp] theorem toList_empty : (empty : Queue α).toList = [] := rfl

@[simp] theorem toList_ofList (xs : List α) : (ofList xs).toList = xs := by
  simp [ofList, toList]

@[simp] theorem toList_enqueue (q : Queue α) (x : α) :
    (q.enqueue x).toList = q.toList ++ [x] := by
  simp [enqueue, toList]

@[simp] theorem toList_enqueueAll (q : Queue α) (xs : List α) :
    (q.enqueueAll xs).toList = q.toList ++ xs := by
  simp [enqueueAll, toList, List.reverseAux_eq]

theorem size_eq (q : Queue α) : q.size = q.toList.length := by
  simp [size, toList]

theorem isEmpty_eq (q : Queue α) : q.isEmpty = q.toList.isEmpty := by
  cases q with
  | mk front back => cases front <;> cases back <;> simp [isEmpty, toList]

/-- Nothing is dequeued exactly from a queue that holds nothing; else the head of the list is. -/
theorem dequeue?_eq (q : Queue α) :
    (q.dequeue?.map fun r => (r.1, r.2.toList)) =
      match q.toList with
      | [] => none
      | x :: rest => some (x, rest) := by
  cases q with
  | mk front back =>
    cases front with
    | cons x front => simp [dequeue?, toList]
    | nil =>
      cases h : back.reverse with
      | nil => simp [dequeue?, toList, h]
      | cons x rest => simp [dequeue?, toList, h]

theorem toList_of_dequeue?_eq_none {q : Queue α} (h : q.dequeue? = none) : q.toList = [] := by
  have e := dequeue?_eq q
  cases hq : q.toList with
  | nil => rfl
  | cons x rest => simp [h, hq] at e

theorem toList_of_dequeue?_eq_some {q r : Queue α} {x : α} (h : q.dequeue? = some (x, r)) :
    q.toList = x :: r.toList := by
  have e := dequeue?_eq q
  cases hq : q.toList with
  | nil => simp [h, hq] at e
  | cons y rest =>
    simp only [h, hq, Option.map_some, Option.some.injEq, Prod.mk.injEq] at e
    rw [e.1, e.2]

end Queue
end MarkupSearch
