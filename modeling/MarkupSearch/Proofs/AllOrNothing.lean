/-
# Edits happen as a whole or not at all

An edit of several changes could fail between two of them. Those of an arena do not: each looks up
the nodes that it names before its first change, and no change takes a node away, so once the
look-ups have found them nothing after can fail. An edit therefore fails exactly when a node that it
names is missing, with the first such id that it looks up, and the arena is then what it was
(`Edit.outcome_link_eq_error_iff`). When it succeeds it changes the fields that it is about and no
others (`Edit.allOrNothing`), whatever the links in the arena are: a node may be linked below
itself, and a new node may bring links of its own.

Key theorems: `Arena.getElem?_linked_push`, `Edit.outcome_link_eq_error_iff`, `Edit.allOrNothing`.
-/
import MarkupSearch.Proofs.Edits

namespace MarkupSearch

/-- A new node comes after those that are there, below its parent, and of the others the parent's
list of children alone is another. -/
theorem Arena.getElem?_linked_push {a : Arena} (hsize : a.size < UInt32.size) {p : NodeId}
    (hp : a.InRange p) (n : Node) (i : Nat) :
    ((a.push n).linked p a.size.toUInt32).nodes[i]? =
      if i = a.size then some { n with id := a.size.toUInt32, parent := some p }
      else (a.nodes[i]?).map fun m =>
        { m with
          children := if p.toNat = i then m.children ++ [a.size.toUInt32] else m.children } := by
  have hne : p.toNat ≠ a.size := Nat.ne_of_lt hp
  rw [getElem?_linked, getElem?_push, toNat_size hsize]
  by_cases hi : i = a.size
  · subst hi
    simp [hne]
  · have hi' : a.size ≠ i := fun h => hi h.symm
    simp [hi, hi', eq_comm]

namespace Edit

variable {a b : Arena} {p c id : NodeId} {e : Failure}

/-! ### When an edit fails -/

/-- A link fails with the child that is missing, or else with the parent that is, and changes
nothing then. -/
theorem outcome_link_eq_error_iff :
    (link p c).outcome a = (.error e, b) ↔
      b = a ∧ (¬ a.InRange c ∧ e = .nodeNotFound c ∨
        a.InRange c ∧ ¬ a.InRange p ∧ e = .nodeNotFound p) := by
  by_cases hc : a.InRange c
  · by_cases hp : a.InRange p
    · simp [outcome_link hp hc, hc, hp]
    · simp [outcome_link_of_parent hc hp, hc, hp, and_comm, eq_comm]
  · simp [outcome_link_of_child hc, hc, and_comm, eq_comm]

theorem outcome_insertUnder_eq_error_iff {n : Node} :
    (insertUnder p n).outcome a = (.error e, b) ↔
      b = a ∧ ¬ a.InRange p ∧ e = .nodeNotFound p := by
  by_cases hp : a.InRange p
  · simp [outcome_insertUnder hp, hp]
  · simp [outcome_insertUnder_of_not_inRange hp, hp, and_comm, eq_comm]

theorem outcome_setRoot_eq_error_iff :
    (setRoot id).outcome a = (.error e, b) ↔
      b = a ∧ ¬ a.InRange id ∧ e = .nodeNotFound id := by
  by_cases hid : a.InRange id
  · simp [outcome_setRoot hid, hid]
  · simp [outcome_setRoot_of_not_inRange hid, hid, and_comm, eq_comm]

/-! ### All or nothing -/

/-- **Edits happen as a whole or not at all.** In an arena with an id left, whatever it holds, a
link, an insertion below a node and a new root fail exactly when a node that they name is missing,
and leave the arena as it was. A link that succeeds adds the child at the end of the one list and
names the parent in the one node, even when both are one; an insertion adds one node, which is the
given one but for its id and its parent, and its id at the end of the parent's list; a new root
changes the root. All else stays. -/
theorem allOrNothing (hsize : a.size < UInt32.size) :
    (∀ p c : NodeId,
      (∀ e b, (link p c).outcome a = (.error e, b) ↔
        b = a ∧ (¬ a.InRange c ∧ e = .nodeNotFound c ∨
          a.InRange c ∧ ¬ a.InRange p ∧ e = .nodeNotFound p)) ∧
      (a.InRange c → a.InRange p → ∃ b, (link p c).outcome a = (.ok (), b) ∧
        b.root = a.root ∧ b.size = a.size ∧
        ∀ (i : Nat) (n : Node), a.nodes[i]? = some n → b.nodes[i]? = some
          { n with
            children := if p.toNat = i then n.children ++ [c] else n.children
            parent := if c.toNat = i then some p else n.parent })) ∧
    (∀ (p : NodeId) (n : Node),
      (∀ e b, (insertUnder p n).outcome a = (.error e, b) ↔
        b = a ∧ ¬ a.InRange p ∧ e = .nodeNotFound p) ∧
      (a.InRange p → ∃ id b, (insertUnder p n).outcome a = (.ok id, b) ∧ id.toNat = a.size ∧
        b.root = a.root ∧ b.size = a.size + 1 ∧
        b.nodes[a.size]? = some { n with id := id, parent := some p } ∧
        ∀ (i : Nat) (m : Node), a.nodes[i]? = some m → b.nodes[i]? = some
          { m with children := if p.toNat = i then m.children ++ [id] else m.children })) ∧
    ∀ id : NodeId,
      (∀ e b, (setRoot id).outcome a = (.error e, b) ↔
        b = a ∧ ¬ a.InRange id ∧ e = .nodeNotFound id) ∧
      (a.InRange id → ∃ b, (setRoot id).outcome a = (.ok (), b) ∧ b.root = some id ∧
        b.nodes = a.nodes) := by
  refine ⟨fun p c => ⟨fun e b => outcome_link_eq_error_iff, fun hc hp => ?_⟩,
    fun p n => ⟨fun e b => outcome_insertUnder_eq_error_iff, fun hp => ?_⟩,
    fun id => ⟨fun e b => outcome_setRoot_eq_error_iff, fun hid => ?_⟩⟩
  · refine ⟨_, outcome_link hp hc, rfl, ?_, fun i n hn => ?_⟩
    · exact Arena.size_linked p c
    · rw [Arena.getElem?_linked, hn, Option.map_some]
  · refine ⟨_, _, outcome_insertUnder hp n, Arena.toNat_size hsize, rfl, ?_, ?_, fun i m hm => ?_⟩
    · rw [Arena.size_linked, Arena.size_push]
    · rw [Arena.getElem?_linked_push hsize hp, if_pos rfl]
    · have hi : i ≠ a.size := by
        obtain ⟨hi, -⟩ := Array.getElem?_eq_some_iff.mp hm
        exact Nat.ne_of_lt hi
      rw [Arena.getElem?_linked_push hsize hp, if_neg hi, hm, Option.map_some]
  · exact ⟨_, outcome_setRoot hid, rfl, rfl⟩

/-- Ids that are not places, a child out of range, a node in two lists and below itself, and a root
out of range. -/
def tangled : Arena where
  nodes := #[{ Node.element "p" [] with id := 7, children := [1, 9, 0] },
    { Node.text "x" with parent := some 5, children := [1] }]
  root := some 3

/-- A comment that names a parent and lists a child already. -/
def linkedBefore : Node := { Node.comment "y" with id := 4, parent := some 8, children := [1] }

theorem allOrNothing_tangled :
    tangled.size < UInt32.size ∧
      (∀ e b, (link 8 9).outcome tangled = (.error e, b) →
        b = tangled ∧ e = .nodeNotFound 9) ∧
      (link 8 1).outcome tangled = (.error (.nodeNotFound 8), tangled) ∧
      (∃ b, (link 1 1).outcome tangled = (.ok (), b) ∧ b.root = some 3 ∧
        b.nodes[1]? = some { Node.text "x" with parent := some 1, children := [1, 1] }) ∧
      (∃ id b, (insertUnder 1 linkedBefore).outcome tangled = (.ok id, b) ∧ id.toNat = 2 ∧
        b.nodes[2]? = some { linkedBefore with id := id, parent := some 1 } ∧
        b.nodes[0]? = some { Node.element "p" [] with id := 7, children := [1, 9, 0] }) ∧
      (setRoot 2).outcome tangled = (.error (.nodeNotFound 2), tangled) := by
  have room : tangled.size < UInt32.size := by decide
  obtain ⟨links, insertions, roots⟩ := allOrNothing room
  refine ⟨room, fun e b h => ?_, ?_, ?_, ?_, ?_⟩
  · obtain ⟨rfl, ⟨-, rfl⟩ | ⟨found, -⟩⟩ := ((links 8 9).1 e b).mp h
    · exact ⟨rfl, rfl⟩
    · exact absurd found (by decide)
  · exact ((links 8 1).1 _ _).mpr ⟨rfl, .inr ⟨by decide, by decide, rfl⟩⟩
  · obtain ⟨b, hb, hroot, -, hnodes⟩ := (links 1 1).2 (by decide) (by decide)
    exact ⟨b, hb, hroot, hnodes 1 _ rfl⟩
  · obtain ⟨id, b, hb, hid, -, -, hnew, hnodes⟩ := (insertions 1 linkedBefore).2 (by decide)
    exact ⟨id, b, hb, hid, hnew, hnodes 0 _ rfl⟩
  · exact ((roots 2).1 _ _).mpr ⟨rfl, by decide, rfl⟩

end Edit
end MarkupSearch
