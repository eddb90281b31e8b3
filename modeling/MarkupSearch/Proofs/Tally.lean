/-
# Lists that hold a value once for each way that leads to it

A search that remembers nothing gives a node once for each way to it. `Tallies leads xs` says that
of a list: its places are in one-to-one correspondence with the ways, each place holding the value
that its way leads to. It is kept by filtering, by joining lists and by going on from each value
(`Tallies.flatMap`), and it turns the count of a value into the number of its ways
(`Tallies.count_eq_ncard`) and the length of the list into the number of all of them.

Key definition: `Tallies`.
Key theorems: `Tallies.flatMap`, `Tallies.count_eq_ncard`, `Tallies.length_eq_ncard`.
-/
import Mathlib.Data.Set.Card
import Mathlib.Data.List.Nodup

namespace MarkupSearch

variable {α β γ δ ε : Type}

/-- The list holds each value once for each way that leads to it. -/
def Tallies (leads : α → β → Prop) (xs : List β) : Prop :=
  ∃ ways : List (α × β), ways.Nodup ∧ (∀ w y, (w, y) ∈ ways ↔ leads w y) ∧ ways.map (·.2) = xs

namespace Tallies

variable {leads leads' : α → β → Prop} {xs ys : List β}

theorem congr (h : Tallies leads xs) (same : ∀ w y, leads w y ↔ leads' w y) :
    Tallies leads' xs := by
  obtain ⟨ways, nodup, mem, hmap⟩ := h
  exact ⟨ways, nodup, fun w y => (mem w y).trans (same w y), hmap⟩

theorem nil (none : ∀ w y, ¬ leads w y) : Tallies leads ([] : List β) :=
  ⟨[], List.nodup_nil, fun w y => by simp [none w y], rfl⟩

/-- The one way to a single value. -/
theorem single (w : α) (y : β) : Tallies (fun w' y' => w' = w ∧ y' = y) [y] :=
  ⟨[(w, y)], List.nodup_singleton _, fun _ _ => by simp, rfl⟩

/-- A list holds what stands in its places. -/
theorem places (xs : List β) : Tallies (fun (i : Nat) y => xs[i]? = some y) xs := by
  refine ⟨xs.zipIdx.map Prod.swap, ?_, fun i y => ?_, ?_⟩
  · refine List.Nodup.of_map (·.1) ?_
    rw [List.map_map, show (·.1) ∘ Prod.swap = (Prod.snd : β × Nat → Nat) from rfl,
      List.zipIdx_map_snd]
    exact List.nodup_range'
  · rw [List.mem_map]
    constructor
    · rintro ⟨⟨y', i'⟩, hm, he⟩
      obtain ⟨rfl, rfl⟩ : i' = i ∧ y' = y := by simpa using he
      exact List.mem_zipIdx_iff_getElem?.mp hm
    · exact fun h => ⟨(y, i), List.mem_zipIdx_iff_getElem?.mpr h, rfl⟩
  · rw [List.map_map, show (·.2) ∘ Prod.swap = (Prod.fst : β × Nat → β) from rfl,
      List.zipIdx_map_fst]

theorem filter (h : Tallies leads xs) (p : β → Bool) :
    Tallies (fun w y => leads w y ∧ p y) (xs.filter p) := by
  obtain ⟨ways, nodup, mem, rfl⟩ := h
  refine ⟨ways.filter fun w => p w.2, nodup.filter _, fun w y => ?_, ?_⟩
  · rw [List.mem_filter, mem]
  · rw [List.filter_map]
    rfl

theorem append (hx : Tallies leads xs) (hy : Tallies leads' ys)
    (apart : ∀ w y, leads w y → ¬ leads' w y) :
    Tallies (fun w y => leads w y ∨ leads' w y) (xs ++ ys) := by
  obtain ⟨ways, nodup, mem, rfl⟩ := hx
  obtain ⟨ways', nodup', mem', rfl⟩ := hy
  refine ⟨ways ++ ways', ?_, fun w y => ?_, List.map_append⟩
  · refine List.Nodup.append nodup nodup' ?_
    rintro ⟨w, y⟩ h h'
    exact apart w y ((mem w y).mp h) ((mem' w y).mp h')
  · rw [List.mem_append, mem, mem']

/-- **Going on from each value.** A way to a value of `xs` and a way on from there make one way,
put together by `join`. -/
theorem flatMap {next : β → γ → δ → Prop} {f : β → List δ} {join : α → γ → ε}
    (hjoin : Function.Injective2 join) (h : Tallies leads xs)
    (one : ∀ w y y', leads w y → leads w y' → y = y') (hf : ∀ y, Tallies (next y) (f y)) :
    Tallies (fun e z => ∃ w v y, e = join w v ∧ leads w y ∧ next y v z) (xs.flatMap f) := by
  obtain ⟨ways, nodup, mem, rfl⟩ := h
  choose ways' nodup' mem' hmap' using hf
  refine ⟨ways.flatMap fun w => (ways' w.2).map fun v => (join w.1 v.1, v.2), ?_, fun e z => ?_, ?_⟩
  · rw [List.nodup_flatMap]
    constructor
    · intro w _
      refine (nodup' w.2).map ?_
      rintro ⟨v, z⟩ ⟨v', z'⟩ he
      injection he with hv hz
      exact Prod.ext (hjoin hv).2 hz
    -- ways through different first parts stay different, since the first part says where it leads
    · refine List.Pairwise.imp_of_mem ?_ nodup
      rintro ⟨w, y⟩ ⟨w', y'⟩ hw hw' hne
      simp only [Function.onFun, List.disjoint_left, List.mem_map]
      rintro _ ⟨v, -, rfl⟩ ⟨v', -, he⟩
      rw [Prod.mk.injEq] at he
      obtain rfl : w' = w := (hjoin he.1).1
      exact hne (by rw [one w' y y' ((mem _ _).mp hw) ((mem _ _).mp hw')])
  · simp only [List.mem_flatMap, List.mem_map, Prod.exists, Prod.mk.injEq]
    constructor
    · rintro ⟨w, y, hw, v, z', hv, rfl, rfl⟩
      exact ⟨w, v, y, rfl, (mem w y).mp hw, (mem' y v z').mp hv⟩
    · rintro ⟨w, v, y, rfl, hw, hv⟩
      exact ⟨w, y, (mem w y).mpr hw, v, z, (mem' y v z).mpr hv, rfl, rfl⟩
  · rw [List.map_flatMap, List.flatMap_map]
    refine List.flatMap_congr fun w _ => ?_
    rw [List.map_map, ← hmap' w.2]
    rfl

/-- The ways to a value, as a list. -/
theorem exists_ways [DecidableEq β] (h : Tallies leads xs) (y : β) :
    ∃ ws : List α, ws.Nodup ∧ (∀ w, w ∈ ws ↔ leads w y) ∧ ws.length = xs.count y := by
  obtain ⟨ways, nodup, mem, rfl⟩ := h
  refine ⟨(ways.filter fun w => w.2 = y).map (·.1), ?_, fun w => ?_, ?_⟩
  · refine (nodup.filter _).map_on ?_
    rintro ⟨w, y₁⟩ h₁ ⟨w', y₂⟩ h₂ rfl
    have e₁ : y₁ = y := by simpa using (List.mem_filter.mp h₁).2
    have e₂ : y₂ = y := by simpa using (List.mem_filter.mp h₂).2
    rw [e₁, e₂]
  · simp only [List.mem_map, List.mem_filter, decide_eq_true_eq, Prod.exists]
    constructor
    · rintro ⟨w', y', ⟨hw, rfl⟩, rfl⟩
      exact (mem w' y').mp hw
    · exact fun hw => ⟨w, y, ⟨(mem w y).mpr hw, rfl⟩, rfl⟩
  · rw [List.length_map, List.count, List.countP_map, List.countP_eq_length_filter]
    congr 1

theorem finite [DecidableEq β] (h : Tallies leads xs) (y : β) : {w | leads w y}.Finite := by
  obtain ⟨ws, -, mem, -⟩ := h.exists_ways y
  exact (List.finite_toSet ws).subset fun w hw => (mem w).mpr hw

/-- **A value occurs as often as there are ways to it.** -/
theorem count_eq_ncard [DecidableEq β] (h : Tallies leads xs) (y : β) :
    xs.count y = {w | leads w y}.ncard := by
  classical
  obtain ⟨ws, nodup, mem, len⟩ := h.exists_ways y
  have : {w | leads w y} = (ws.toFinset : Set α) := by
    ext w
    simp [mem]
  rw [this, Set.ncard_coe_finset, List.toFinset_card_of_nodup nodup, len]

/-- A list has as many places as there are ways, when no way leads to two values. -/
theorem length_eq_ncard (h : Tallies leads xs)
    (one : ∀ w y y', leads w y → leads w y' → y = y') :
    {w | ∃ y, leads w y}.Finite ∧ xs.length = {w | ∃ y, leads w y}.ncard := by
  classical
  obtain ⟨ways, nodup, mem, rfl⟩ := h
  have nodup' : (ways.map (·.1)).Nodup := by
    refine nodup.map_on ?_
    rintro ⟨w, y⟩ hw ⟨w', y'⟩ hw' rfl
    rw [one w y y' ((mem w y).mp hw) ((mem w y').mp hw')]
  have same : {w | ∃ y, leads w y} = ((ways.map (·.1)).toFinset : Set α) := by
    ext w
    simp [mem]
  rw [same, Set.ncard_coe_finset, List.toFinset_card_of_nodup nodup', List.length_map,
    List.length_map]
  exact ⟨Finset.finite_toSet _, rfl⟩

theorem mem_iff [DecidableEq β] (h : Tallies leads xs) (y : β) : y ∈ xs ↔ ∃ w, leads w y := by
  rw [← List.count_pos_iff, h.count_eq_ncard, Set.ncard_pos (h.finite y)]
  rfl

theorem one_lt_count_iff [DecidableEq β] (h : Tallies leads xs) (y : β) :
    1 < xs.count y ↔ ∃ w v, w ≠ v ∧ leads w y ∧ leads v y := by
  rw [h.count_eq_ncard, Set.one_lt_ncard_iff (h.finite y)]
  constructor
  · rintro ⟨w, v, hw, hv, hne⟩
    exact ⟨w, v, hne, hw, hv⟩
  · rintro ⟨w, v, hne, hw, hv⟩
    exact ⟨w, v, hw, hv, hne⟩

end Tallies
end MarkupSearch
