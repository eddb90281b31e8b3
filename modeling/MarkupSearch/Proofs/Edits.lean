/-
# What an edit does to an arena

An edit runs from an arena to an outcome and an arena. Its parts are taken one after the other
(`outcome_bind`), and each edit has one equation for when it finds the nodes that it names and one
for when it does not; what is made of several edits is worked out from these equations alone. What
an edit leaves in an arena is said node by node (`Arena.getElem?_push`, `Arena.getElem?_linked`).

Key theorems: `Edit.outcome_bind`, `Edit.outcome_link`, `Edit.outcome_insertUnder`,
`Arena.getElem?_push`, `Arena.getElem?_linked`.
-/
import MarkupSearch.Proofs.Links

namespace MarkupSearch

namespace Arena

variable {a : Arena}

@[simp] theorem size_modify (id : NodeId) (f : Node → Node) : (a.modify id f).size = a.size := by
  simp [modify, size]

@[simp] theorem inRange_modify {id c : NodeId} {f : Node → Node} :
    (a.modify id f).InRange c ↔ a.InRange c := by
  simp [InRange]

/-- The arena with a node more, under the id that its place gives it. -/
def push (a : Arena) (n : Node) : Arena :=
  { a with nodes := a.nodes.push { n with id := a.size.toUInt32 } }

@[simp] theorem size_push (n : Node) : (a.push n).size = a.size + 1 := by
  simp [push, size]

theorem toNat_size_mod (a : Arena) : a.size.toUInt32.toNat = a.size % UInt32.size :=
  UInt32.toNat_ofNat'

theorem toNat_size (hsize : a.size < UInt32.size) : a.size.toUInt32.toNat = a.size := by
  rw [toNat_size_mod, Nat.mod_eq_of_lt hsize]

theorem getElem?_push (n : Node) (i : Nat) :
    (a.push n).nodes[i]? =
      if i = a.size then some { n with id := a.size.toUInt32 } else a.nodes[i]? :=
  Array.getElem?_push

theorem inRange_push {id : NodeId} (n : Node) (h : a.InRange id) : (a.push n).InRange id := by
  rw [InRange, size_push]
  exact Nat.lt_succ_of_lt h

/-- The new id is in range even where it is no longer new. -/
theorem inRange_push_size (n : Node) : (a.push n).InRange a.size.toUInt32 := by
  rw [InRange, size_push, toNat_size_mod]
  exact Nat.lt_succ_of_le (Nat.mod_le _ _)

/-- The arena with a link more, in both directions. -/
def linked (a : Arena) (p c : NodeId) : Arena :=
  (a.modify p fun n => { n with children := n.children ++ [c] }).modify c fun n =>
    { n with parent := some p }

@[simp] theorem size_linked (p c : NodeId) : (a.linked p c).size = a.size := by
  rw [linked, size_modify, size_modify]

@[simp] theorem inRange_linked {p c id : NodeId} : (a.linked p c).InRange id ↔ a.InRange id := by
  rw [InRange, InRange, size_linked]

theorem getElem?_modify (id : NodeId) (f : Node → Node) (i : Nat) :
    (a.modify id f).nodes[i]? = if id.toNat = i then (a.nodes[i]?).map f else a.nodes[i]? :=
  Array.getElem?_modify

/-- A link changes the list of the one node and the parent of the other, even when both are one. -/
theorem getElem?_linked (p c : NodeId) (i : Nat) :
    (a.linked p c).nodes[i]? = (a.nodes[i]?).map fun n =>
      { n with
        children := if p.toNat = i then n.children ++ [c] else n.children
        parent := if c.toNat = i then some p else n.parent } := by
  rw [linked, getElem?_modify, getElem?_modify]
  cases a.nodes[i]? with
  | none => simp
  | some n =>
    by_cases hp : p.toNat = i
    · by_cases hc : c.toNat = i
      · simp [hp, hc]
      · simp [hp, hc]
    · by_cases hc : c.toNat = i
      · simp [hp, hc]
      · simp [hp, hc]

end Arena

namespace Edit

variable {α β : Type} {a : Arena}

/-- The second part goes on from where the first one ends, unless that is a failure. -/
theorem outcome_bind (e : Edit α) (f : α → Edit β) :
    (e >>= f).outcome a =
      match e.outcome a with
      | (.ok x, a') => (f x).outcome a'
      | (.error err, a') => (.error err, a') := by
  simp only [outcome, ExceptT.run_bind, StateT.run_bind, Id.run_bind]
  rcases e.run.run a with ⟨_ | _, _⟩ <;> rfl

theorem outcome_get (id : NodeId) :
    (get id).outcome a =
      match a.get? id with
      | some n => (.ok n, a)
      | none => (.error (.nodeNotFound id), a) := by
  change (match a.get? id with
    | some n => (pure n : Edit Node)
    | none => throw (Failure.nodeNotFound id)).outcome a = _
  cases a.get? id <;> rfl

theorem outcome_get_bind_of_inRange {id : NodeId} (h : a.InRange id) (f : Node → Edit α) :
    ∃ n, a.get? id = some n ∧ (get id >>= f).outcome a = (f n).outcome a := by
  obtain ⟨n, hn⟩ := Arena.inRange_iff.mp h
  exact ⟨n, hn, by rw [outcome_bind, outcome_get, hn]⟩

theorem outcome_get_bind_of_not_inRange {id : NodeId} (h : ¬ a.InRange id) (f : Node → Edit α) :
    (get id >>= f).outcome a = (.error (.nodeNotFound id), a) := by
  rw [outcome_bind, outcome_get, Arena.get?_eq_none_iff.mpr h]

theorem outcome_change {id : NodeId} (h : a.InRange id) (f : Node → Node) :
    (change id f).outcome a = (.ok (), a.modify id f) := by
  obtain ⟨n, -, e⟩ := outcome_get_bind_of_inRange h fun _ => modifyThe Arena fun a => a.modify id f
  exact e

theorem outcome_insert (n : Node) : (insert n).outcome a = (.ok a.size.toUInt32, a.push n) := rfl

theorem outcome_link {p c : NodeId} (hp : a.InRange p) (hc : a.InRange c) :
    (link p c).outcome a = (.ok (), a.linked p c) := by
  obtain ⟨n, -, e⟩ := outcome_get_bind_of_inRange hc fun _ => do
    change p fun n => { n with children := n.children ++ [c] }
    change c fun n => { n with parent := some p }
  rw [link, e, outcome_bind, outcome_change hp]
  exact outcome_change (by simpa using hc) _

theorem outcome_link_of_child {p c : NodeId} (hc : ¬ a.InRange c) :
    (link p c).outcome a = (.error (.nodeNotFound c), a) :=
  outcome_get_bind_of_not_inRange hc _

theorem outcome_link_of_parent {p c : NodeId} (hc : a.InRange c) (hp : ¬ a.InRange p) :
    (link p c).outcome a = (.error (.nodeNotFound p), a) := by
  obtain ⟨n, -, e⟩ := outcome_get_bind_of_inRange hc fun _ => do
    change p fun n => { n with children := n.children ++ [c] }
    change c fun n => { n with parent := some p }
  rw [link, e, outcome_bind, change, outcome_get_bind_of_not_inRange hp]

theorem outcome_insertUnder {p : NodeId} (hp : a.InRange p) (n : Node) :
    (insertUnder p n).outcome a =
      (.ok a.size.toUInt32, (a.push n).linked p a.size.toUInt32) := by
  obtain ⟨-, -, e⟩ := outcome_get_bind_of_inRange hp fun _ => do
    let id ← insert n
    link p id
    return id
  rw [insertUnder, e, outcome_bind, outcome_insert]
  simp only
  rw [outcome_bind, outcome_link (Arena.inRange_push n hp) (Arena.inRange_push_size n)]
  rfl

theorem outcome_insertUnder_of_not_inRange {p : NodeId} (hp : ¬ a.InRange p) (n : Node) :
    (insertUnder p n).outcome a = (.error (.nodeNotFound p), a) :=
  outcome_get_bind_of_not_inRange hp _

theorem outcome_setRoot {id : NodeId} (h : a.InRange id) :
    (setRoot id).outcome a = (.ok (), { a with root := some id }) := by
  obtain ⟨n, -, e⟩ := outcome_get_bind_of_inRange h fun _ =>
    modifyThe Arena fun a => { a with root := some id }
  exact e

theorem outcome_setRoot_of_not_inRange {id : NodeId} (h : ¬ a.InRange id) :
    (setRoot id).outcome a = (.error (.nodeNotFound id), a) :=
  outcome_get_bind_of_not_inRange h _

theorem outcome_clear : clear.outcome a = (.ok (), Arena.empty) := rfl

end Edit
end MarkupSearch
