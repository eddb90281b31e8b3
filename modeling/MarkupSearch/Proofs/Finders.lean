/-
# Finders and selectors of one token

A text that is not empty and holds no space is a single token, and stands for the stage of that
token (`Selector.stages_parse_of_token`). Its search is that for the stage below the root, so the
finder for the same stage gives the root besides, in front, when the root passes the stage itself
(`Arena.find_ofToken`). Every name that a token can carry is covered: a tag name stands for itself,
a class is written behind a dot, and a star with anything behind it is a text
(`Arena.finders_eq_query`). From a root that is absent or out of range nothing is found either way.

Key theorems: `Selector.stages_parse_of_token`, `Arena.find_ofToken`, `Arena.finders_eq_query`.
-/
import MarkupSearch.Proofs.Chaining
import MarkupSearch.Proofs.Words

namespace MarkupSearch

/-! ### One token -/

namespace Stage

theorem ofToken_of_head? {t : String} (hdot : t.toList.head? ≠ some '.')
    (hstar : t.toList.head? ≠ some '*') : ofToken t = tag t := by
  rw [ofToken, ofChars_of_head? hdot hstar, String.ofList_toList]

theorem ofToken_dot (name : String) : ofToken ("." ++ name) = ofClass name := by
  rw [ofToken, String.toList_append]
  change ofClass (String.ofList name.toList) = ofClass name
  rw [String.ofList_toList]

/-- What stands behind the star is passed over. -/
theorem ofToken_star (rest : String) : ofToken ("*" ++ rest) = text := by
  rw [ofToken, String.toList_append]
  rfl

end Stage

/-- **A text without spaces is one token**, unless it is empty. -/
theorem Selector.stages_parse_of_token {t : String} (hne : t ≠ "") (hspace : ' ' ∉ t.toList) :
    (parse t).stages = [Stage.ofToken t] := by
  have hne : t.toList ≠ [] := fun h => hne (String.toList_eq_nil_iff.mp h)
  have free : ∀ c ∈ t.toList, (c == ' ') = false := by
    intro c hc
    rw [beq_eq_false_iff_ne]
    rintro rfl
    exact hspace hc
  rw [stages_parse, Text.piecesAt_of_forall hne free]
  rfl

namespace Arena

variable {a : Arena} {r : NodeId} {n : Node}

theorem query_of_token {t : String} (hne : t ≠ "") (hspace : ' ' ∉ t.toList) (r : NodeId) :
    a.query (some r) t = a.findBelow r (Stage.ofToken t).accepts := by
  have stages := Selector.stages_parse_of_token hne hspace
  rw [query_of_stages_ne_nil (by simp [stages]), stages, follow_cons]
  exact List.flatMap_singleton' _

theorem filter_singleton_passes (hn : a.get? r = some n) (test : Node → Bool) :
    [r].filter (a.passes test) = if test n then [r] else [] := by
  have hr : a.passes test r = test n := by rw [passes, hn, Option.any_some]
  rw [List.filter_cons, hr, List.filter_nil]

/-- **A finder gives the root, if that passes the stage, and then what the token leads to.** -/
theorem find_ofToken (h : a.AcyclicFrom r) (hn : a.get? r = some n) {t : String} (hne : t ≠ "")
    (hspace : ' ' ∉ t.toList) :
    a.find (some r) (Stage.ofToken t).accepts =
      (if (Stage.ofToken t).accepts n then [r] else []) ++ a.query (some r) t := by
  rw [find_some_eq_append h, filter_singleton_passes hn, query_of_token hne hspace]

/-! ### Nothing is found -/

theorem find_of_not_inRange {root : Option NodeId} (h : ∀ r ∈ root, ¬ a.InRange r)
    (test : Node → Bool) : a.find root test = [] := by
  have none : a.level root.toList 0 = [] := by
    rw [level, List.filter_eq_nil_iff]
    simpa using h
  rw [find, search_eq_levels, flatMap_level_of_le none (Nat.zero_le _)]
  rfl

theorem findBelow_of_not_inRange (h : ¬ a.InRange r) (test : Node → Bool) :
    a.findBelow r test = [] := by
  rw [findBelow, childIds_of_not_inRange h, search_nil]

/-- The first stage finds nothing below a node that is not there. -/
theorem query_of_not_inRange {root : Option NodeId} (h : ∀ r ∈ root, ¬ a.InRange r) (t : String) :
    a.query root t = [] := by
  cases hstages : (Selector.parse t).stages with
  | nil => exact query_of_stages_eq_nil hstages root
  | cons s stages =>
    rw [query_of_stages_ne_nil (by simp [hstages]), hstages]
    cases root with
    | none => exact followFrom_nil _
    | some r => rw [follow_cons, findBelow_of_not_inRange (h r rfl), List.flatMap_nil]

/-- The finder of a class looks for no node when no node can be of it. -/
theorem findClass_eq_nil {name : String}
    (h : name = "" ∨ ∃ c ∈ name.toList, Text.isSpace c = true) (root : Option NodeId) :
    a.findClass root name = [] := by
  refine List.eq_nil_iff_forall_not_mem.mpr fun x hx => ?_
  obtain ⟨n, -, passed⟩ := mem_search hx
  rw [Stage.accepts, Node.hasClass_eq_false h] at passed
  exact absurd passed (by decide)

/-! ### The finders -/

/-- **Finders and selectors agree but for the root.** Where no cycle can be reached, the finders by
name, by class and for texts give the root first, if that is such a node, and then what the selector
of the one token leads to, for all names that a token can carry; the finder of a class without a
name, or of a name that holds white space, gives nothing. From a root that is absent or out of range
finders and selectors give nothing. -/
theorem finders_eq_query (a : Arena) :
    (∀ (r : NodeId) (n : Node), a.AcyclicFrom r → a.get? r = some n →
      (∀ t : String, t ≠ "" → ' ' ∉ t.toList → t.toList.head? ≠ some '.' →
        t.toList.head? ≠ some '*' →
        a.findTag (some r) t =
          (if (Stage.tag t).accepts n then [r] else []) ++ a.query (some r) t) ∧
      (∀ c : String, ' ' ∉ c.toList →
        a.findClass (some r) c =
          (if (Stage.ofClass c).accepts n then [r] else []) ++ a.query (some r) ("." ++ c)) ∧
      (∀ c : String, (c = "" ∨ ∃ x ∈ c.toList, Text.isSpace x = true) →
        a.findClass (some r) c = []) ∧
      ∀ w : String, ' ' ∉ w.toList →
        a.findText (some r) = (if n.kind = .text then [r] else []) ++ a.query (some r) ("*" ++ w)) ∧
    ∀ root : Option NodeId, (∀ r ∈ root, ¬ a.InRange r) → ∀ t : String,
      a.findTag root t = [] ∧ a.findClass root t = [] ∧ a.findText root = [] ∧
        a.query root t = [] := by
  constructor
  · intro r n h hn
    refine ⟨fun t hne hspace hdot hstar => ?_, fun c hspace => ?_,
      fun c hc => findClass_eq_nil hc (some r), fun w hspace => ?_⟩
    · have found := find_ofToken h hn hne hspace
      rwa [Stage.ofToken_of_head? hdot hstar] at found
    · have found := find_ofToken h hn (t := "." ++ c) (by simp) (by simpa using hspace)
      rwa [Stage.ofToken_dot] at found
    · have found := find_ofToken h hn (t := "*" ++ w) (by simp) (by simpa using hspace)
      rw [Stage.ofToken_star] at found
      simpa only [findText, Stage.accepts, Node.isText, decide_eq_true_eq] using found
  · intro root h t
    exact ⟨find_of_not_inRange h _, find_of_not_inRange h _, find_of_not_inRange h _,
      query_of_not_inRange h t⟩

/-- Divisions of a class within one another, the inner one listed twice, with an id out of range and
a text. -/
def nested : Arena where
  nodes := #[{ Node.element "DIV" [⟨"class", "x\ty"⟩] with children := [1, 9, 1] },
    { Node.element "div" [⟨"class", "Y"⟩] with parent := some 0, children := [2] },
    { Node.text "one" with parent := some 1 }]
  root := some 0

theorem finders_eq_query_nested :
    nested.AcyclicFrom 0 ∧ nested.AcyclicFrom 2 ∧ ¬ nested.InRange 9 ∧
      nested.findTag (some 0) "Div" = [0] ++ nested.query (some 0) "Div" ∧
      nested.findClass (some 0) "y" = [0] ++ nested.query (some 0) ".y" ∧
      nested.findClass (some 0) "x\ty" = [] ∧
      nested.findText (some 2) = [2] ++ nested.query (some 2) "*.y" ∧
      nested.findTag (some 9) "div" = [] ∧ nested.query (some 9) "div" = [] := by
  have h : nested.Acyclic := acyclic_of_later (by decide)
  obtain ⟨present, absent⟩ := finders_eq_query nested
  obtain ⟨tags, classes, noClasses, -⟩ := present 0 _ (h.acyclicFrom 0) rfl
  obtain ⟨-, -, -, texts⟩ := present 2 _ (h.acyclicFrom 2) rfl
  have outOfRange : ¬ nested.InRange 9 := by decide
  obtain ⟨noTag, -, -, nowhere⟩ := absent (some 9) (by simpa using outOfRange) "div"
  refine ⟨h.acyclicFrom 0, h.acyclicFrom 2, outOfRange, ?_, ?_, ?_, ?_, noTag, nowhere⟩
  · exact tags "Div" (by decide) (by decide) (by decide) (by decide)
  · exact classes "y" (by decide)
  · exact noClasses "x\ty" (.inr ⟨'\t', by decide, by decide⟩)
  · exact texts ".y" (by decide)

end Arena
end MarkupSearch
