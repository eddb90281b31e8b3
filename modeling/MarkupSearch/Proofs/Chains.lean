/-
# A selector finds a node once for each chain that descends to it

The stages of a selector are followed one after the other and nothing is struck out on the way, so
a result is repeated for each way in which it can be come by. A way is a chain: a non-empty path of
child links for each stage, each path starting where the one before ends and ending at a node that
passes the stage. `count_follow` says that a node occurs as often as chains end at it, through
shared nodes, repeated children and ids out of range.

Key definition: `Arena.Chain`.
Key theorem: `Arena.count_follow`.
-/
import MarkupSearch.Proofs.LevelOrder
import MarkupSearch.Proofs.Tally

namespace MarkupSearch
namespace Arena

variable {a : Arena}

/-- A chain that starts at an id: for each stage a path that is not empty and ends at a node that
passes the stage, the next path starting there. -/
inductive Chain (a : Arena) : NodeId → List Stage → List (List Nat) → NodeId → Prop where
  | nil (r : NodeId) : Chain a r [] [] r
  | cons {r y x : NodeId} {n : Node} {s : Stage} {stages : List Stage} {path : List Nat}
      {paths : List (List Nat)} (nonempty : path ≠ []) (ends : a.goTo? r path = some y)
      (node : a.get? y = some n) (accepted : s.accepts n = true)
      (rest : Chain a y stages paths x) : Chain a r (s :: stages) (path :: paths) x

theorem chain_nil_iff {r x : NodeId} {paths : List (List Nat)} :
    a.Chain r [] paths x ↔ paths = [] ∧ x = r := by
  constructor
  · rintro ⟨⟩
    exact ⟨rfl, rfl⟩
  · rintro ⟨rfl, rfl⟩
    exact .nil _

theorem chain_cons_iff {r x : NodeId} {s : Stage} {stages : List Stage} {chain : List (List Nat)} :
    a.Chain r (s :: stages) chain x ↔
      ∃ path paths y, chain = path :: paths ∧
        ((path ≠ [] ∧ a.goTo? r path = some y) ∧ a.passes s.accepts y = true) ∧
        a.Chain y stages paths x := by
  constructor
  · rintro (_ | ⟨nonempty, ends, node, accepted, rest⟩)
    exact ⟨_, _, _, rfl, ⟨⟨nonempty, ends⟩, passes_eq_true.mpr ⟨_, node, accepted⟩⟩, rest⟩
  · rintro ⟨path, paths, y, rfl, ⟨⟨nonempty, ends⟩, passed⟩, rest⟩
    obtain ⟨n, node, accepted⟩ := passes_eq_true.mp passed
    exact .cons nonempty ends node accepted rest

/-- A chain leads down from where it starts. -/
theorem Chain.transGen {r x : NodeId} {stages : List Stage} {chain : List (List Nat)}
    (h : a.Chain r stages chain x) (hne : stages ≠ []) : Relation.TransGen a.Lists r x := by
  induction h with
  | nil r => exact absurd rfl hne
  | @cons r y x n s stages path paths nonempty ends _ _ rest ih =>
    have first := transGen_of_goTo? ends nonempty
    cases stages with
    | nil =>
      obtain ⟨-, rfl⟩ := chain_nil_iff.mp rest
      exact first
    | cons s' stages => exact first.trans (ih (by simp))

/-! ### One stage -/

theorem injective2_snoc : Function.Injective2 fun (path : List Nat) (i : Nat) => path ++ [i] := by
  intro path path' i i' h
  obtain ⟨rfl, hi⟩ := List.append_inj' h rfl
  exact ⟨rfl, by simpa using hi⟩

/-- A level holds a node once for each path of its length. -/
theorem tallies_level (id : NodeId) (k : Nat) :
    Tallies (fun path x => path.length = k ∧ a.goTo? id path = some x) (a.level [id] k) := by
  induction k with
  | zero =>
    refine ((Tallies.single ([] : List Nat) id).filter (a.InRange ·)).congr fun path x => ?_
    rw [List.length_eq_zero_iff, and_assoc]
    refine and_congr_right fun hp => ?_
    subst hp
    simp only [goTo?, decide_eq_true_eq, Option.ite_none_right_eq_some, Option.some.injEq]
    constructor
    · rintro ⟨rfl, hr⟩
      exact ⟨hr, rfl⟩
    · rintro ⟨hr, rfl⟩
      exact ⟨rfl, hr⟩
  | succ k ih =>
    refine (Tallies.flatMap injective2_snoc ih ?_ fun y =>
      (Tallies.places (a.childIds y)).filter (a.InRange ·)).congr fun path x => ?_
    · rintro path y y' ⟨-, hy⟩ ⟨-, hy'⟩
      exact Option.some.inj (hy.symm.trans hy')
    · constructor
      · rintro ⟨p, i, y, rfl, ⟨rfl, hp⟩, hi, hr⟩
        exact ⟨by simp, goTo?_snoc_eq_some.mpr ⟨y, hp, hi, by simpa using hr⟩⟩
      · rintro ⟨hlen, h⟩
        rcases List.eq_nil_or_concat' path with rfl | ⟨p, i, rfl⟩
        · simp at hlen
        · obtain ⟨y, hp, hi, hr⟩ := goTo?_snoc_eq_some.mp h
          exact ⟨p, i, y, rfl, ⟨by simpa using hlen, hp⟩, hi, by simpa using hr⟩

theorem tallies_levels (id : NodeId) (k : Nat) :
    Tallies (fun path x => path.length ≤ k ∧ path ≠ [] ∧ a.goTo? id path = some x)
      ((List.range k).flatMap fun j => a.level [id] (j + 1)) := by
  induction k with
  | zero =>
    refine Tallies.nil ?_
    rintro path x ⟨hlen, hne, -⟩
    exact hne (List.length_eq_zero_iff.mp (Nat.le_zero.mp hlen))
  | succ k ih =>
    rw [List.range_succ, List.flatMap_append, List.flatMap_singleton]
    refine (ih.append (tallies_level id (k + 1)) ?_).congr fun path x => ?_
    · rintro path x ⟨hlen, -⟩ ⟨hlen', -⟩
      omega
    · constructor
      · rintro (⟨hlen, hne, h⟩ | ⟨hlen, h⟩)
        · exact ⟨by omega, hne, h⟩
        · exact ⟨by omega, by rintro rfl; simp at hlen, h⟩
      · rintro ⟨hlen, hne, h⟩
        rcases Nat.lt_or_ge k path.length with hk | hk
        · exact Or.inr ⟨by omega, h⟩
        · exact Or.inl ⟨hk, hne, h⟩

/-- What is found below a node is found once for each path to it that is not empty. -/
theorem tallies_findBelow {id : NodeId} (h : a.AcyclicFrom id) (test : Node → Bool) :
    Tallies (fun path x => (path ≠ [] ∧ a.goTo? id path = some x) ∧ a.passes test x = true)
      (a.findBelow id test) := by
  rw [findBelow_eq_levels]
  refine ((tallies_levels id (a.size + 1)).filter (a.passes test)).congr fun path x => ?_
  refine and_congr_left fun _ => ⟨And.right, fun hp => ⟨?_, hp⟩⟩
  exact (length_le_of_goTo? h.depthLE hp.2).trans (Nat.le_succ _)

/-! ### All stages -/

theorem followFrom_nil (stages : List Stage) : a.followFrom stages [] = [] := by
  cases stages <;> rfl

/-- Stopping when nothing is left gives what going on would give. -/
theorem followFrom_cons (s : Stage) (stages : List Stage) (working : List NodeId) :
    a.followFrom (s :: stages) working =
      a.followFrom stages (working.flatMap fun id => a.findBelow id s.accepts) := by
  rw [followFrom]
  split
  · next h => rw [h, followFrom_nil]
  · rfl

/-- The nodes that are worked from do not know of each other. -/
theorem followFrom_eq_flatMap (stages : List Stage) : ∀ working : List NodeId,
    a.followFrom stages working = working.flatMap fun id => a.follow (some id) stages := by
  induction stages with
  | nil =>
    intro working
    exact (List.flatMap_singleton' working).symm
  | cons s stages ih =>
    intro working
    rw [followFrom_cons, ih, List.flatMap_assoc]
    refine List.flatMap_congr fun id _ => ?_
    rw [follow, followFrom_cons, ih, Option.toList_some, List.flatMap_singleton]

theorem follow_cons (id : NodeId) (s : Stage) (stages : List Stage) :
    a.follow (some id) (s :: stages) =
      (a.findBelow id s.accepts).flatMap fun y => a.follow (some y) stages := by
  rw [follow, followFrom_cons, followFrom_eq_flatMap, Option.toList_some, List.flatMap_singleton]

/-- A list of stages finds a node once for each chain. -/
theorem tallies_follow (h : a.Acyclic) (stages : List Stage) : ∀ r : NodeId,
    Tallies (fun chain x => a.Chain r stages chain x) (a.follow (some r) stages) := by
  induction stages with
  | nil => exact fun r => (Tallies.single [] r).congr fun _ _ => chain_nil_iff.symm
  | cons s stages ih =>
    intro r
    have hjoin : Function.Injective2 (List.cons : List Nat → _ → _) := fun _ _ _ _ => List.cons.inj
    rw [follow_cons]
    refine (Tallies.flatMap hjoin (tallies_findBelow (h.acyclicFrom r) s.accepts) ?_ ih).congr
      fun chain x => chain_cons_iff.symm
    rintro path y y' ⟨⟨-, hy⟩, -⟩ ⟨⟨-, hy'⟩, -⟩
    exact Option.some.inj (hy.symm.trans hy')

/-- **A node is found once for each chain that descends to it.** So it is found exactly when there
is a chain, repeated exactly when there are two, and a search of at least one stage never finds the
node that it starts from. -/
theorem count_follow (h : a.Acyclic) (r : NodeId) (stages : List Stage) (x : NodeId) :
    {chain | a.Chain r stages chain x}.Finite ∧
    (a.follow (some r) stages).count x = {chain | a.Chain r stages chain x}.ncard ∧
    (x ∈ a.follow (some r) stages ↔ ∃ chain, a.Chain r stages chain x) ∧
    (1 < (a.follow (some r) stages).count x ↔
      ∃ chain chain', chain ≠ chain' ∧ a.Chain r stages chain x ∧ a.Chain r stages chain' x) ∧
    (stages ≠ [] → r ∉ a.follow (some r) stages) := by
  have tallies := tallies_follow h stages r
  refine ⟨tallies.finite x, tallies.count_eq_ncard x, tallies.mem_iff x, tallies.one_lt_count_iff x,
    fun hne hr => ?_⟩
  obtain ⟨chain, hchain⟩ := (tallies.mem_iff r).mp hr
  exact h r (hchain.transGen hne)

/-- A node that lists a child twice and an id out of range, and two nodes that share a child. -/
def shared : Arena where
  nodes := #[{ Node.element "div" [] with children := [1, 1, 9, 2] },
    { Node.element "div" [] with children := [3] }, { Node.element "div" [] with children := [3] },
    Node.element "div" []]
  root := some 0

theorem count_follow_shared :
    shared.Acyclic ∧ 1 < (shared.follow (some 0) [.tag "div", .tag "div"]).count 3 ∧
      0 ∉ shared.follow (some 0) [.tag "div", .tag "div"] := by
  have h : shared.Acyclic := acyclic_of_later (by decide)
  have below : ∀ i j : Nat, ∀ y : NodeId, shared.goTo? 0 [i] = some y →
      shared.goTo? y [j] = some 3 → shared.passes (Stage.tag "div").accepts y = true →
      shared.Chain 0 [.tag "div", .tag "div"] [[i], [j]] 3 := by
    intro i j y hy h3 hp
    rw [chain_cons_iff]
    refine ⟨[i], [[j]], y, rfl, ⟨⟨by simp, hy⟩, hp⟩, chain_cons_iff.mpr ?_⟩
    exact ⟨[j], [], 3, rfl, ⟨⟨by simp, h3⟩, by decide⟩, .nil 3⟩
  refine ⟨h, ?_, (count_follow h 0 _ 0).2.2.2.2 (by simp)⟩
  refine (count_follow h 0 _ 3).2.2.2.1.mpr ⟨[[0], [0]], [[3], [0]], by decide, ?_, ?_⟩
  · exact below 0 0 1 (by decide) (by decide) (by decide)
  · exact below 3 0 2 (by decide) (by decide) (by decide)

end Arena
end MarkupSearch
