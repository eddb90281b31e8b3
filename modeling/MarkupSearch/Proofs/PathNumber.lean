/-
# How many paths there are

The paths from an id are all the ways to follow child links from it: the empty one, those that end
at an id out of range, and two for two places of one list even when the same id stands in both.
Where no cycle can be reached there are finitely many, and document order lists one id for each of
them, the one at its end (`tallies_preorder`). The number that the loops are weighed with, which
counts paths up to a reach, is therefore the number of all paths as soon as the reach is enough
(`ncard_paths`).

Key definitions: `Arena.endOf?`, `Arena.paths`.
Key theorems: `Arena.tallies_preorder`, `Arena.finite_paths`, `Arena.ncard_paths`.
-/
import MarkupSearch.Proofs.DocumentOrder
import MarkupSearch.Proofs.Tally

namespace MarkupSearch

theorem getElem?_attach_eq_some {α : Type} {xs : List α} {i : Nat} {x : {x // x ∈ xs}} :
    xs.attach[i]? = some x ↔ xs[i]? = some x.1 := by
  have values : xs[i]? = xs.attach[i]?.map Subtype.val := by
    rw [← List.getElem?_map, List.attach_map_subtype_val]
  rw [values, Option.map_eq_some_iff]
  constructor
  · exact fun h => ⟨x, h, rfl⟩
  · rintro ⟨y, hy, hval⟩
    rw [hy, Subtype.ext hval]

namespace Arena

variable {a : Arena}

/-- The id at the end of a path. As for `goTo?`, a path names a place in the list of children of
each node that it goes on from, but it may end at an id out of range. -/
def endOf? (a : Arena) : NodeId → List Nat → Option NodeId
  | id, [] => some id
  | id, i :: path =>
    match (a.childIds id)[i]? with
    | some c => a.endOf? c path
    | none => none

/-- The paths of child links from an id. -/
def paths (a : Arena) (id : NodeId) : Set (List Nat) := {path | ∃ x, a.endOf? id path = some x}

theorem endOf?_cons_eq_some {id x : NodeId} {i : Nat} {path : List Nat} :
    a.endOf? id (i :: path) = some x ↔
      ∃ c, (a.childIds id)[i]? = some c ∧ a.endOf? c path = some x := by
  rw [endOf?]
  cases (a.childIds id)[i]? <;> simp

/-! ### Document order lists the paths -/

/-- **Document order lists an id once for each path that ends there.** -/
theorem tallies_preorder {id : NodeId} (h : a.AcyclicFrom id) :
    Tallies (fun path x => a.endOf? id path = some x) (a.preorder id h) := by
  have places := Tallies.places (a.childIds id).attach
  have hjoin : Function.Injective2 (List.cons : Nat → _ → _) := fun _ _ _ _ => List.cons.inj
  have below := places.flatMap hjoin
    (fun i c c' hc hc' => Option.some.inj (hc.symm.trans hc'))
    fun c : {c // c ∈ a.childIds id} => tallies_preorder (h.child c.2)
  rw [preorder, ← List.singleton_append]
  refine ((Tallies.single [] id).append below ?_).congr fun path x => ?_
  · rintro path x ⟨rfl, -⟩ ⟨i, p, c, hp, -⟩
    simp at hp
  · cases path with
    | nil => simp [endOf?, eq_comm]
    | cons i path =>
      rw [endOf?_cons_eq_some]
      constructor
      · rintro (⟨hp, -⟩ | ⟨i', p, c, hp, hi, hx⟩)
        · simp at hp
        · obtain ⟨rfl, rfl⟩ := List.cons.inj hp
          exact ⟨c.1, getElem?_attach_eq_some.mp hi, hx⟩
      · rintro ⟨c, hi, hx⟩
        exact .inr ⟨i, path, ⟨c, List.mem_of_getElem? hi⟩, rfl, getElem?_attach_eq_some.mpr hi, hx⟩
termination_by (⟨id, h⟩ : {id : NodeId // a.AcyclicFrom id})
decreasing_by exact c.2

/-- Lists that have so many places each, put together. -/
theorem length_flatten_pmap {P : NodeId → Prop} {f : (id : NodeId) → P id → List NodeId}
    {size : NodeId → Nat} : ∀ (ids : List NodeId) (hids : ∀ id ∈ ids, P id),
      (∀ id (h : id ∈ ids), (f id (hids id h)).length = size id) →
      (ids.pmap f hids).flatten.length = ids.foldr (fun id sum => size id + sum) 0
  | [], _, _ => rfl
  | id :: ids, hids, h => by
    rw [List.pmap_cons, List.flatten_cons, List.length_append, List.foldr_cons,
      h id List.mem_cons_self,
      length_flatten_pmap ids (fun c hc => hids c (List.mem_cons_of_mem _ hc)) fun c hc =>
        h c (List.mem_cons_of_mem _ hc)]

theorem length_preorder (reach : Nat) : ∀ (id : NodeId) (h : a.AcyclicFrom id),
    a.DepthLE reach id → (a.preorder id h).length = a.pathCount reach id := by
  induction reach with
  | zero =>
    intro id h hd
    have leaf : a.childIds id = [] := hd
    rw [preorder_eq]
    simp only [leaf, List.pmap_nil, List.flatten_nil, List.length_singleton, pathCount]
  | succ reach ih =>
    intro id h hd
    have below := length_flatten_pmap (a.childIds id) (fun _ hc => h.child hc)
      fun c hc => ih c (h.child hc) (hd c hc)
    rw [preorder_eq, List.length_cons, below, pathCount, Nat.add_comm]

theorem paths_tallied {id : NodeId} (h : a.AcyclicFrom id) :
    (a.paths id).Finite ∧ (a.preorder id h).length = (a.paths id).ncard :=
  (tallies_preorder h).length_eq_ncard fun _ _ _ hx hy => Option.some.inj (hx.symm.trans hy)

theorem finite_paths {id : NodeId} (h : a.AcyclicFrom id) : (a.paths id).Finite :=
  (paths_tallied h).1

/-- **A reach that is enough counts all paths.** -/
theorem ncard_paths {reach : Nat} {id : NodeId} (h : a.DepthLE reach id) :
    (a.paths id).ncard = a.pathCount reach id := by
  rw [← length_preorder reach id h.acyclicFrom h]
  exact (paths_tallied h.acyclicFrom).2.symm

end Arena
end MarkupSearch
