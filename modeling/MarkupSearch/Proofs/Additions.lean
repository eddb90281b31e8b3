/-
# Ids of added nodes

An addition puts a node at the end of an arena, under the arena's size in 32 bits, or fails and
changes nothing (`Addition.outcome_edit`). What a node carries besides its links and its place in
the arena then stay as they are, whatever is added later (`Arena.contents_isPrefix_addAll`), so a
node that got its place as its id is found under it for good.

The arena itself has no bound. Once it holds as many nodes as there are ids, ids come again: two
calls give the same id exactly when the sizes that they found agree in 32 bits
(`Arena.id_eq_id_iff`). Ids are therefore different for as long as they last (`Arena.addAll_ids`),
and no longer (`Arena.addAll_tooMany`).

Key definitions: `Addition`, `Arena.addAll`, `Arena.contents`.
Key theorems: `Addition.outcome_edit`, `Arena.added`, `Arena.id_eq_id_iff`, `Arena.addAll_ids`.
-/
import MarkupSearch.Proofs.Edits

namespace MarkupSearch

/-- A node as an arena keeps it for good: its links may change, the rest may not. -/
def Node.unlinked (n : Node) : Node := { n with parent := none, children := [] }

theorem Node.unlinked_eq_iff {n m : Node} :
    n.unlinked = m.unlinked ↔
      n.id = m.id ∧ n.kind = m.kind ∧ n.name = m.name ∧ n.value = m.value ∧
        n.attributes = m.attributes := by
  simp [unlinked]

namespace Arena

variable {a : Arena}

/-- What an arena keeps for good, place by place. -/
def contents (a : Arena) : List Node := a.nodes.toList.map Node.unlinked

@[simp] theorem length_contents : a.contents.length = a.size := by
  simp [contents, size]

theorem getElem?_contents (i : Nat) : a.contents[i]? = a.nodes[i]?.map Node.unlinked := by
  rw [contents, List.getElem?_map, Array.getElem?_toList]

theorem contents_push (n : Node) :
    (a.push n).contents = a.contents ++ [Node.unlinked { n with id := a.size.toUInt32 }] := by
  rw [contents, push, Array.toList_push, List.map_append, contents, List.map_singleton]

theorem contents_linked (p c : NodeId) : (a.linked p c).contents = a.contents := by
  refine List.ext_getElem? fun i => ?_
  rw [getElem?_contents, getElem?_contents, getElem?_linked, Option.map_map]
  rfl

end Arena

/-- A call that adds a node to an arena, by itself or as the last child of another. -/
structure Addition where
  parent : Option NodeId
  node : Node

namespace Addition

/-- The edit that a call asks for. -/
def edit (x : Addition) : Edit NodeId :=
  match x.parent with
  | none => Edit.insert x.node
  | some p => Edit.insertUnder p x.node

/-- **One call** fails and changes nothing, or puts its node after those that are there. -/
theorem outcome_edit (x : Addition) (a : Arena) :
    (∃ e, x.edit.outcome a = (.error e, a)) ∨
      ∃ b, x.edit.outcome a = (.ok a.size.toUInt32, b) ∧
        b.contents = a.contents ++ [Node.unlinked { x.node with id := a.size.toUInt32 }] := by
  obtain ⟨parent, n⟩ := x
  cases parent with
  | none => exact .inr ⟨a.push n, Edit.outcome_insert n, Arena.contents_push n⟩
  | some p =>
    by_cases hp : a.InRange p
    · refine .inr ⟨_, Edit.outcome_insertUnder hp n, ?_⟩
      rw [Arena.contents_linked, Arena.contents_push]
    · exact .inl ⟨_, Edit.outcome_insertUnder_of_not_inRange hp n⟩

/-- An arena has the node that a call adds under an id, up to its links. -/
def FoundIn (x : Addition) (a : Arena) (id : NodeId) : Prop :=
  ∃ n, a.get? id = some n ∧ n.kind = x.node.kind ∧ n.name = x.node.name ∧
    n.value = x.node.value ∧ n.attributes = x.node.attributes

end Addition

namespace Arena

variable {a : Arena} {xs : List Addition} {i j : Nat} {x : Addition} {id id' : NodeId}

/-! ### Runs of additions -/

/-- The outcomes of calls made one after the other, each whether the one before failed or not, and
the arena after the last one. -/
def addAll : List Addition → Arena → List (Except Failure NodeId) × Arena
  | [], a => ([], a)
  | x :: xs, a =>
    let (r, b) := x.edit.outcome a
    let (rs, c) := addAll xs b
    (r :: rs, c)

/-- The arena that a call finds. -/
def before (a : Arena) (xs : List Addition) (i : Nat) : Arena := (addAll (xs.take i) a).2

theorem addAll_append (xs ys : List Addition) (a : Arena) :
    addAll (xs ++ ys) a =
      ((addAll xs a).1 ++ (addAll ys (addAll xs a).2).1, (addAll ys (addAll xs a).2).2) := by
  induction xs generalizing a with
  | nil => rfl
  | cons x xs ih =>
    simp only [List.cons_append, addAll]
    rw [ih]

/-- The outcome of each call is that of its edit on what the call finds. -/
theorem getElem?_addAll (xs : List Addition) (a : Arena) (i : Nat) :
    (addAll xs a).1[i]? = xs[i]?.map fun x => (x.edit.outcome (a.before xs i)).1 := by
  induction xs generalizing a i with
  | nil => rfl
  | cons x xs ih =>
    cases i with
    | zero => rfl
    | succ i => exact ih (x.edit.outcome a).2 i

/-- What is in an arena stays in it, in its place, through any run of additions. -/
theorem contents_isPrefix_addAll (xs : List Addition) (a : Arena) :
    a.contents <+: (addAll xs a).2.contents := by
  induction xs generalizing a with
  | nil => exact List.prefix_refl _
  | cons x xs ih =>
    refine List.IsPrefix.trans ?_ (ih (x.edit.outcome a).2)
    obtain ⟨e, hx⟩ | ⟨b, hx, hb⟩ := x.outcome_edit a
    · rw [hx]
    · rw [hx, hb]
      exact List.prefix_append _ _

/-- The run from a call on. -/
theorem snd_addAll (hx : xs[i]? = some x) :
    (addAll xs a).2 = (addAll (xs.drop (i + 1)) (x.edit.outcome (a.before xs i)).2).2 := by
  obtain ⟨hi, hget⟩ := List.getElem?_eq_some_iff.mp hx
  have split : xs = xs.take i ++ x :: xs.drop (i + 1) := by
    rw [← hget, List.getElem_cons_drop, List.take_append_drop]
  calc (addAll xs a).2
      = (addAll (xs.take i ++ x :: xs.drop (i + 1)) a).2 := by rw [← split]
    _ = (addAll (x :: xs.drop (i + 1)) (a.before xs i)).2 := by rw [addAll_append, before]
    _ = (addAll (xs.drop (i + 1)) (x.edit.outcome (a.before xs i)).2).2 := rfl

/-- **A call that succeeds** gives the size that it finds, in 32 bits, and its node comes after
what it finds and stays there. -/
theorem added (hx : xs[i]? = some x) (hr : (addAll xs a).1[i]? = some (.ok id)) :
    id = (a.before xs i).size.toUInt32 ∧
      (a.before xs i).contents ++ [Node.unlinked { x.node with id := id }] <+:
        (addAll xs a).2.contents := by
  rw [getElem?_addAll, hx, Option.map_some, Option.some_inj] at hr
  rw [snd_addAll hx]
  obtain ⟨e, he⟩ | ⟨b, hb, hcontents⟩ := x.outcome_edit (a.before xs i)
  · rw [he] at hr
    cases hr
  · rw [hb] at hr ⊢
    obtain rfl := Except.ok.inj hr
    rw [← hcontents]
    exact ⟨rfl, contents_isPrefix_addAll _ b⟩

theorem exists_call (hr : (addAll xs a).1[i]? = some (.ok id)) : ∃ x, xs[i]? = some x := by
  rw [getElem?_addAll, Option.map_eq_some_iff] at hr
  obtain ⟨x, hx, -⟩ := hr
  exact ⟨x, hx⟩

/-- A later call finds more nodes. -/
theorem size_before_lt (hr : (addAll xs a).1[i]? = some (.ok id)) (hij : i < j) :
    (a.before xs i).size < (a.before xs j).size := by
  -- the earlier call is one of the run up to the later one, and finds the same there
  have hbefore : a.before (xs.take j) i = a.before xs i := by
    rw [before, List.take_take, min_eq_left hij.le, before]
  have hsame : (addAll (xs.take j) a).1[i]? = (addAll xs a).1[i]? := by
    rw [getElem?_addAll, getElem?_addAll, hbefore, List.getElem?_take_of_lt hij]
  obtain ⟨x, hx⟩ := exists_call (hsame.trans hr)
  have longer := (added hx (hsame.trans hr)).2.length_le
  rw [hbefore, List.length_append, length_contents, length_contents] at longer
  exact longer

/-! ### When ids are the same -/

/-- **Ids come again** when the arena has grown by a multiple of their number, and only then. -/
theorem id_eq_id_iff (hi : (addAll xs a).1[i]? = some (.ok id))
    (hj : (addAll xs a).1[j]? = some (.ok id')) :
    id = id' ↔ (a.before xs i).size % UInt32.size = (a.before xs j).size % UInt32.size := by
  obtain ⟨x, hx⟩ := exists_call hi
  obtain ⟨y, hy⟩ := exists_call hj
  rw [(added hx hi).1, (added hy hj).1, ← UInt32.toNat_inj, toNat_size_mod, toNat_size_mod]

/-- Calls that give one id while there are ids left are one call. -/
theorem eq_of_same_id (hi : (addAll xs a).1[i]? = some (.ok id))
    (roomi : (a.before xs i).size < UInt32.size) (hj : (addAll xs a).1[j]? = some (.ok id))
    (roomj : (a.before xs j).size < UInt32.size) : i = j := by
  have same := (id_eq_id_iff hi hj).mp rfl
  rw [Nat.mod_eq_of_lt roomi, Nat.mod_eq_of_lt roomj] at same
  rcases Nat.lt_trichotomy i j with hij | hij | hij
  · exact absurd same (size_before_lt hi hij).ne
  · exact hij
  · exact absurd same (size_before_lt hj hij).ne'

/-- What was added while there were ids left is found, however many nodes come after. -/
theorem foundIn_addAll (hx : xs[i]? = some x) (hr : (addAll xs a).1[i]? = some (.ok id))
    (room : (a.before xs i).size < UInt32.size) : x.FoundIn (addAll xs a).2 id := by
  obtain ⟨hid, stays⟩ := added hx hr
  have place : id.toNat = (a.before xs i).contents.length := by
    rw [hid, toNat_size room, length_contents]
  have kept : (addAll xs a).2.contents[id.toNat]? =
      some (Node.unlinked { x.node with id := id }) := by
    obtain ⟨after, hafter⟩ := stays
    rw [← hafter, place, List.append_assoc, List.getElem?_append_right le_rfl, Nat.sub_self]
    rfl
  rw [getElem?_contents] at kept
  obtain ⟨n, hn, same⟩ := Option.map_eq_some_iff.mp kept
  exact ⟨n, hn, (Node.unlinked_eq_iff.mp same).2⟩

/-- **Ids are different and lead to what was added for as long as they last.** In a run of additions
of any length, the calls that find fewer nodes than there are ids, and succeed, give different ids,
and under each of them the arena after the run has the node that was added, up to its links. -/
theorem addAll_ids (a : Arena) (xs : List Addition) :
    (∀ (i j : Nat) (id : NodeId),
      (addAll xs a).1[i]? = some (.ok id) → (a.before xs i).size < UInt32.size →
      (addAll xs a).1[j]? = some (.ok id) → (a.before xs j).size < UInt32.size → i = j) ∧
    ∀ (i : Nat) (x : Addition) (id : NodeId),
      xs[i]? = some x → (addAll xs a).1[i]? = some (.ok id) →
      (a.before xs i).size < UInt32.size → x.FoundIn (addAll xs a).2 id :=
  ⟨fun _ _ _ => eq_of_same_id, fun _ _ _ => foundIn_addAll⟩

/-- A page of one paragraph; the call between asks for a parent that is not there. -/
def threeCalls : List Addition :=
  [⟨none, Node.document⟩, ⟨some 7, Node.text "x"⟩, ⟨some 0, Node.element "p" [⟨"class", "y"⟩]⟩]

theorem addAll_ids_threeCalls :
    (addAll threeCalls empty).1 = [.ok 0, .error (.nodeNotFound 7), .ok 1] ∧
      (empty.before threeCalls 0).size < UInt32.size ∧
      (empty.before threeCalls 2).size < UInt32.size ∧
      (∀ j, (addAll threeCalls empty).1[j]? = some (.ok 1) →
        (empty.before threeCalls j).size < UInt32.size → 2 = j) ∧
      (Addition.mk none Node.document).FoundIn (addAll threeCalls empty).2 0 ∧
      (Addition.mk (some 0) (Node.element "p" [⟨"class", "y"⟩])).FoundIn
        (addAll threeCalls empty).2 1 := by
  have room : (empty.before threeCalls 0).size < UInt32.size := by decide
  have room' : (empty.before threeCalls 2).size < UInt32.size := by decide
  obtain ⟨different, found⟩ := addAll_ids empty threeCalls
  exact ⟨rfl, room, room', fun j => different 2 j 1 rfl room', found 0 _ 0 rfl rfl room,
    found 2 _ 1 rfl rfl room'⟩

/-! ### When ids run out -/

/-- Calls that link nothing cannot fail, and count on in 32 bits. -/
theorem getElem?_addAll_of_parent_eq_none (h : ∀ x ∈ xs, x.parent = none) (hi : i < xs.length) :
    (addAll xs a).1[i]? = some (.ok (a.size + i).toUInt32) := by
  induction xs generalizing a i with
  | nil => exact absurd hi (Nat.not_lt_zero i)
  | cons x xs ih =>
    have hx : x.edit = Edit.insert x.node := by
      rw [Addition.edit, h x List.mem_cons_self]
    rw [addAll, hx, Edit.outcome_insert]
    cases i with
    | zero => rfl
    | succ i =>
      rw [List.getElem?_cons_succ, ih (fun y hy => h y (List.mem_cons_of_mem x hy))
        (Nat.lt_of_succ_lt_succ hi), size_push, Nat.add_assoc, Nat.add_comm 1]

/-- As many documents as there are ids, and a text after them. -/
def tooMany : List Addition :=
  List.replicate UInt32.size ⟨none, Node.document⟩ ++ [⟨none, Node.text "x"⟩]

theorem length_tooMany : tooMany.length = UInt32.size + 1 := by
  rw [tooMany, List.length_append, List.length_replicate, List.length_singleton]

theorem parent_of_mem_tooMany : ∀ x ∈ tooMany, x.parent = none := by
  intro x hx
  rcases List.mem_append.mp hx with hx | hx
  · rw [List.eq_of_mem_replicate hx]
  · rw [List.mem_singleton.mp hx]

/-- The text gets the id of the first document, and under it there is still the document. -/
theorem addAll_tooMany :
    ¬ (∀ (i j : Nat) (id : NodeId), (addAll tooMany empty).1[i]? = some (.ok id) →
        (addAll tooMany empty).1[j]? = some (.ok id) → i = j) ∧
      ¬ ∀ (i : Nat) (x : Addition) (id : NodeId), tooMany[i]? = some x →
        (addAll tooMany empty).1[i]? = some (.ok id) →
        x.FoundIn (addAll tooMany empty).2 id := by
  have pos : 0 < UInt32.size := by decide
  have first : (addAll tooMany empty).1[0]? = some (.ok 0) :=
    getElem?_addAll_of_parent_eq_none parent_of_mem_tooMany (length_tooMany ▸ Nat.succ_pos _)
  have last : (addAll tooMany empty).1[UInt32.size]? = some (.ok 0) :=
    getElem?_addAll_of_parent_eq_none parent_of_mem_tooMany (length_tooMany ▸ Nat.lt_succ_self _)
  have document : tooMany[0]? = some ⟨none, Node.document⟩ := by
    rw [tooMany, List.getElem?_append_left (by rwa [List.length_replicate]),
      List.getElem?_replicate, if_pos pos]
  have text : tooMany[UInt32.size]? = some ⟨none, Node.text "x"⟩ := by
    rw [tooMany, List.getElem?_append_right (by rw [List.length_replicate]),
      List.length_replicate, Nat.sub_self]
    rfl
  constructor
  · intro different
    exact absurd (different 0 UInt32.size 0 first last) pos.ne
  · intro found
    obtain ⟨n, hn, hdocument, -⟩ := found 0 _ 0 document first
    obtain ⟨m, hm, htext, -⟩ := found UInt32.size _ 0 text last
    obtain rfl := Option.some.inj (hn.symm.trans hm)
    exact absurd (hdocument.symm.trans htext) (by decide)

end Arena
end MarkupSearch
