/-
# Chaining selectors

A selector that is followed by another one searches from where the first one led: the list of
nodes that the stages of the first come to is all that the stages of the second begin with, and
the nodes in it do not know of each other (`follow_append`). A space between two selectors' texts
chains them, but a text of spaces alone is no selector with nothing to do: it leads nowhere, and
beside another text it adds nothing. So the law of chaining holds between texts that both stand
for stages, and a text without stages leaves the other one as it is (`query_append`).

Key theorems: `Arena.follow_append`, `Arena.query_append`.
-/
import MarkupSearch.Proofs.Chains
import MarkupSearch.Proofs.SelectorText

namespace MarkupSearch
namespace Arena

variable {a : Arena}

theorem followFrom_append (stages later : List Stage) : ∀ working : List NodeId,
    a.followFrom (stages ++ later) working = a.followFrom later (a.followFrom stages working) := by
  induction stages with
  | nil =>
    intro working
    rw [List.nil_append, followFrom]
  | cons s stages ih =>
    intro working
    rw [List.cons_append, followFrom_cons, ih, followFrom_cons]

/-- **Stages after stages** begin from each node that the first ones led to. -/
theorem follow_append (root : Option NodeId) (stages later : List Stage) :
    a.follow root (stages ++ later) =
      (a.follow root stages).flatMap fun x => a.follow (some x) later := by
  calc a.follow root (stages ++ later)
      = a.followFrom later (a.follow root stages) := followFrom_append stages later root.toList
    _ = _ := followFrom_eq_flatMap later (a.follow root stages)

/-! ### Texts -/

theorem query_of_stages_eq_nil {t : String} (h : (Selector.parse t).stages = [])
    (root : Option NodeId) : a.query root t = [] := by
  unfold query
  split
  · rfl
  · next stages hne e =>
    rw [e] at h
    exact absurd h hne

theorem query_of_stages_ne_nil {t : String} (h : (Selector.parse t).stages ≠ [])
    (root : Option NodeId) : a.query root t = a.follow root (Selector.parse t).stages := by
  unfold query
  split
  · next e => exact absurd (by rw [e]) h
  · next stages _ e => rw [e]

/-- Texts that stand for the same stages lead to the same nodes. -/
theorem query_congr {t u : String} (h : (Selector.parse t).stages = (Selector.parse u).stages)
    (root : Option NodeId) : a.query root t = a.query root u := by
  by_cases hu : (Selector.parse u).stages = []
  · rw [query_of_stages_eq_nil hu, query_of_stages_eq_nil (h.trans hu)]
  · rw [query_of_stages_ne_nil hu, query_of_stages_ne_nil (h ▸ hu), h]

theorem stages_parse_ne_nil {t : String} (h : ∃ c ∈ t.toList, c ≠ ' ') :
    (Selector.parse t).stages ≠ [] := by
  obtain ⟨c, hc, hne⟩ := h
  intro hnil
  exact hne ((Selector.stages_parse_eq_nil_iff t).mp hnil c hc)

/-- **A space between two texts chains their searches**, when both texts hold more than spaces: the
second one is followed from each node that the first one leads to, in order, as often as it is
found. A text of spaces leaves the other text's search as it is, on either side. Lists of stages
chain in the same way, the empty list too. -/
theorem query_append (a : Arena) (root : Option NodeId) :
    (∀ t u : String, (∃ c ∈ t.toList, c ≠ ' ') → (∃ c ∈ u.toList, c ≠ ' ') →
      a.query root (t ++ " " ++ u) = (a.query root t).flatMap fun x => a.query (some x) u) ∧
    (∀ t u : String, (∀ c ∈ t.toList, c = ' ') →
      a.query root (t ++ " " ++ u) = a.query root u ∧
      a.query root (u ++ " " ++ t) = a.query root u) ∧
    ∀ stages later : List Stage, a.follow root (stages ++ later) =
      (a.follow root stages).flatMap fun x => a.follow (some x) later := by
  refine ⟨fun t u ht hu => ?_, fun t u ht => ?_, follow_append root⟩
  · have ht := stages_parse_ne_nil ht
    have hu := stages_parse_ne_nil hu
    have htu : (Selector.parse (t ++ " " ++ u)).stages ≠ [] := by
      rw [Selector.stages_parse_append]
      exact fun h => ht (List.append_eq_nil_iff.mp h).1
    rw [query_of_stages_ne_nil htu, Selector.stages_parse_append, follow_append,
      query_of_stages_ne_nil ht]
    exact List.flatMap_congr fun x _ => (query_of_stages_ne_nil hu (some x)).symm
  · have ht := (Selector.stages_parse_eq_nil_iff t).mpr ht
    constructor
    · exact query_congr (by rw [Selector.stages_parse_append, ht, List.nil_append]) root
    · exact query_congr (by rw [Selector.stages_parse_append, ht, List.append_nil]) root

theorem query_append_shared :
    (∃ c ∈ "DIV ".toList, c ≠ ' ') ∧ (∃ c ∈ "div".toList, c ≠ ' ') ∧ (∀ c ∈ "  ".toList, c = ' ') ∧
      shared.query (some 0) ("DIV " ++ " " ++ "div") =
        (shared.query (some 0) "DIV ").flatMap (fun x => shared.query (some x) "div") ∧
      shared.query (some 9) ("  " ++ " " ++ "div") = shared.query (some 9) "div" := by
  obtain ⟨chain, -, -⟩ := query_append shared (some 0)
  obtain ⟨-, blank, -⟩ := query_append shared (some 9)
  have hfirst : ∃ c ∈ "DIV ".toList, c ≠ ' ' := ⟨'D', by simp, by decide⟩
  have hsecond : ∃ c ∈ "div".toList, c ≠ ' ' := ⟨'d', by simp, by decide⟩
  have hspaces : ∀ c ∈ "  ".toList, c = ' ' := by simp
  exact ⟨hfirst, hsecond, hspaces, chain "DIV " "div" hfirst hsecond, (blank "  " "div" hspaces).1⟩

end Arena
end MarkupSearch
