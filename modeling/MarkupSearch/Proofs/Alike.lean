/-
# What searches cannot tell apart

A search reads of an arena how many nodes there are, which children each lists and of which kind it
is; of an element it reads the name and the first `class` attribute, and these up to letter case
only. Arenas that agree on that (`Arena.Alike`) may differ in all else, ids, parents, values, other
attributes and the root among it. Stages that agree up to letter case (`Stage.Alike`) accept the
same of such nodes, the texts of two selectors that agree up to letter case stand for such stages,
and so a search of the one arena with the one text finds what a search of the other arena with the
other text finds (`Arena.searches_eq_of_alike`).

Key definitions: `Node.Alike`, `Stage.Alike`, `Arena.Alike`.
Key theorems: `Stage.Alike.accepts_eq`, `Selector.alike_parse`, `Arena.search_congr`,
`Arena.searches_eq_of_alike`.
-/
import MarkupSearch.Proofs.Chains
import MarkupSearch.Proofs.Chaining
import MarkupSearch.Proofs.LetterCase

namespace MarkupSearch

namespace Node

/-- Two nodes that no stage tells apart and that list the same children. -/
structure Alike (m n : Node) : Prop where
  children : m.children = n.children
  kind : m.kind = n.kind
  /-- The names of elements agree up to letter case. -/
  name : m.kind = .element → Text.sameLetters m.name n.name
  /-- Elements have both no `class` attribute, or their first ones agree up to letter case. -/
  classes : m.kind = .element →
    Option.Rel (fun v w => Text.sameLetters v w) (m.attr "class") (n.attr "class")

variable {m n : Node}

theorem Alike.isElement_eq (h : m.Alike n) : m.isElement = n.isElement := by
  rw [isElement, isElement, h.kind]

/-- Elements that are alike have the same classes, up to letter case. -/
theorem Alike.hasClass_eq (h : m.Alike n) {name name' : String}
    (hname : Text.sameLetters name name') : m.hasClass name = n.hasClass name' := by
  rw [hasClass, hasClass, ← h.isElement_eq]
  by_cases he : m.kind = .element
  · have hclass := h.classes he
    rw [Text.sameLetters_iff] at hname
    rw [Node.classes, Node.classes]
    generalize m.attr "class" = v at hclass
    generalize n.attr "class" = w at hclass
    cases hclass with
    | none => rfl
    | some hvw =>
      rw [Text.sameLetters_iff] at hvw
      simp only [Text.any_sameLetters_words, hvw, hname]
  · rw [isElement, decide_eq_false he, Bool.false_and, Bool.false_and]

end Node

/-! ### Stages -/

namespace Stage

/-- Two stages that agree up to letter case. -/
inductive Alike : Stage → Stage → Prop
  | tag {name name' : String} (h : Text.sameLetters name name') : Alike (tag name) (tag name')
  | ofClass {name name' : String} (h : Text.sameLetters name name') :
      Alike (ofClass name) (ofClass name')
  | text : Alike text text

/-- **Stages that agree up to letter case accept the same.** -/
theorem Alike.accepts_eq {s t : Stage} (hst : s.Alike t) {m n : Node} (h : m.Alike n) :
    s.accepts m = t.accepts n := by
  cases hst with
  | tag hname =>
    rw [accepts, accepts, Node.tagName, Node.tagName, ← h.isElement_eq]
    by_cases he : m.isElement = true
    · rw [if_pos he, if_pos he]
      exact Text.sameLetters_congr (h.name (of_decide_eq_true he)) hname
    · rw [if_neg he, if_neg he]
  | ofClass hname => exact h.hasClass_eq hname
  | text => rw [accepts, accepts, Node.isText, Node.isText, h.kind]

/-- Tokens that agree up to letter case stand for stages that do. -/
theorem alike_ofChars {cs ds : List Char} (h : cs.flatMap Text.lower = ds.flatMap Text.lower) :
    (ofChars cs).Alike (ofChars ds) := by
  -- a token that begins with a mark has a counterpart that begins with it
  have begins : ∀ {m : Char} {xs ys : List Char}, Text.isMark m = true →
      (m :: xs).flatMap Text.lower = ys.flatMap Text.lower →
      ∃ ys', ys = m :: ys' ∧ xs.flatMap Text.lower = ys'.flatMap Text.lower := by
    intro m xs ys hm hxy
    rw [List.flatMap_cons, Text.lower_of_isMark hm, List.singleton_append] at hxy
    obtain ⟨ys', hys, e⟩ := Text.exists_cons_of_flatMap_lower hm hxy.symm
    exact ⟨ys', hys, e.symm⟩
  have same : ∀ {xs ys : List Char}, xs.flatMap Text.lower = ys.flatMap Text.lower →
      Text.sameLetters (String.ofList xs) (String.ofList ys) = true := by
    intro xs ys hxy
    rw [Text.sameLetters_iff, Text.lowered_ofList, Text.lowered_ofList, hxy]
  by_cases hdot : cs.head? = some '.'
  · obtain ⟨xs, rfl⟩ := List.head?_eq_some_iff.mp hdot
    obtain ⟨ys, rfl, hxy⟩ := begins (by decide) h
    exact .ofClass (same hxy)
  · by_cases hstar : cs.head? = some '*'
    · obtain ⟨xs, rfl⟩ := List.head?_eq_some_iff.mp hstar
      obtain ⟨ys, rfl, -⟩ := begins (by decide) h
      exact .text
    · have keeps : ∀ m : Char, Text.isMark m = true → cs.head? ≠ some m → ds.head? ≠ some m := by
        intro m hm hc hd
        obtain ⟨ys, rfl⟩ := List.head?_eq_some_iff.mp hd
        obtain ⟨xs, rfl, -⟩ := begins hm h.symm
        exact hc rfl
      rw [ofChars_of_head? hdot hstar, ofChars_of_head? (keeps '.' (by decide) hdot)
        (keeps '*' (by decide) hstar)]
      exact .tag (same h)

end Stage

/-- **Texts that agree up to letter case** stand for stages that do. -/
theorem Selector.alike_parse {s t : String} (h : Text.sameLetters s t) :
    List.Forall₂ Stage.Alike (parse s).stages (parse t).stages := by
  have marks : ∀ c, (c == ' ') = true → Text.isMark c = true := by
    intro c hc
    rw [beq_iff_eq.mp hc]
    decide
  have pieces : (Text.piecesAt (· == ' ') s.toList).map (fun p => p.flatMap Text.lower) =
      (Text.piecesAt (· == ' ') t.toList).map fun p => p.flatMap Text.lower := by
    rw [Text.sameLetters_iff, Text.lowered, Text.lowered] at h
    rw [← Text.piecesAt_flatMap_lower marks, ← Text.piecesAt_flatMap_lower marks, h]
  rw [stages_parse, stages_parse, List.forall₂_map_left_iff, List.forall₂_map_right_iff]
  rw [← List.forall₂_eq_eq_eq, List.forall₂_map_left_iff, List.forall₂_map_right_iff] at pieces
  exact pieces.imp fun _ _ => Stage.alike_ofChars

/-! ### Arenas -/

namespace Arena

variable {a b : Arena}

/-- Two arenas that no search tells apart. -/
structure Alike (a b : Arena) : Prop where
  size : a.size = b.size
  node : ∀ (i : Nat) (m n : Node), a.nodes[i]? = some m → b.nodes[i]? = some n → m.Alike n

theorem Alike.inRange_iff (h : a.Alike b) {id : NodeId} : a.InRange id ↔ b.InRange id := by
  rw [InRange, InRange, h.size]

theorem Alike.childIds_eq (h : a.Alike b) (id : NodeId) : a.childIds id = b.childIds id := by
  by_cases hr : a.InRange id
  · obtain ⟨m, hm⟩ := Arena.inRange_iff.mp hr
    obtain ⟨n, hn⟩ := Arena.inRange_iff.mp (h.inRange_iff.mp hr)
    rw [childIds_of_get? hm, childIds_of_get? hn, (h.node _ m n hm hn).children]
  · rw [childIds_of_not_inRange hr, childIds_of_not_inRange (mt h.inRange_iff.mpr hr)]

theorem Alike.passes_eq (h : a.Alike b) {s t : Stage} (hst : s.Alike t) (id : NodeId) :
    a.passes s.accepts id = b.passes t.accepts id := by
  by_cases hr : a.InRange id
  · obtain ⟨m, hm⟩ := Arena.inRange_iff.mp hr
    obtain ⟨n, hn⟩ := Arena.inRange_iff.mp (h.inRange_iff.mp hr)
    rw [passes, passes, hm, hn, Option.any_some, Option.any_some,
      hst.accepts_eq (h.node _ m n hm hn)]
  · rw [passes, passes, get?_eq_none_iff.mpr hr, get?_eq_none_iff.mpr (mt h.inRange_iff.mpr hr)]
    rfl

theorem level_congr (hsize : a.size = b.size) (hchild : ∀ id, a.childIds id = b.childIds id)
    (ids : List NodeId) (k : Nat) : a.level ids k = b.level ids k := by
  have hrange : ∀ id, decide (a.InRange id) = decide (b.InRange id) := fun id =>
    decide_eq_decide.mpr (by rw [InRange, InRange, hsize])
  induction k with
  | zero => simp only [level, hrange]
  | succ k ih => simp only [level, ih, hchild, hrange]

/-- **Searches hang on the number of nodes, the lists of children and the test alone.** -/
theorem search_congr {test test' : Node → Bool} (hsize : a.size = b.size)
    (hchild : ∀ id, a.childIds id = b.childIds id)
    (hpass : ∀ id, a.passes test id = b.passes test' id) (ids : List NodeId) :
    a.search test ids = b.search test' ids := by
  rw [search_eq_levels, search_eq_levels, funext (level_congr hsize hchild ids), hsize,
    funext hpass]

theorem Alike.search_eq (h : a.Alike b) {s t : Stage} (hst : s.Alike t) (ids : List NodeId) :
    a.search s.accepts ids = b.search t.accepts ids :=
  search_congr h.size h.childIds_eq (h.passes_eq hst) ids

/-- Following stages that agree leads to the same nodes, through all stages. -/
theorem Alike.followFrom_eq (h : a.Alike b) {stages stages' : List Stage}
    (hs : List.Forall₂ Stage.Alike stages stages') : ∀ working : List NodeId,
    a.followFrom stages working = b.followFrom stages' working := by
  induction hs with
  | nil => exact fun working => rfl
  | @cons s t stages stages' hst _ ih =>
    intro working
    have below : ∀ id, a.findBelow id s.accepts = b.findBelow id t.accepts := by
      intro id
      rw [findBelow, findBelow, h.childIds_eq, h.search_eq hst]
    rw [followFrom_cons, followFrom_cons, ih]
    simp only [below]

theorem Alike.query_eq (h : a.Alike b) (root : Option NodeId) {s t : String}
    (hst : Text.sameLetters s t) : a.query root s = b.query root t := by
  have stages := Selector.alike_parse hst
  by_cases hs : (Selector.parse s).stages = []
  · have ht : (Selector.parse t).stages = [] := by
      rw [hs] at stages
      exact List.forall₂_nil_left_iff.mp stages
    rw [query_of_stages_eq_nil hs, query_of_stages_eq_nil ht]
  · have ht : (Selector.parse t).stages ≠ [] := by
      intro ht
      rw [ht] at stages
      exact hs (List.forall₂_nil_right_iff.mp stages)
    rw [query_of_stages_ne_nil hs, query_of_stages_ne_nil ht]
    exact h.followFrom_eq stages root.toList

/-- **Searches see no more than child links, kinds, names and classes, and no letter case.** In two
arenas that agree on these, selectors that agree up to letter case lead to the same nodes in the
same order, and so do the finders by name, by class and for texts, from any root. -/
theorem searches_eq_of_alike (h : a.Alike b) (root : Option NodeId) :
    (∀ s t : String, Text.sameLetters s t → a.query root s = b.query root t) ∧
    (∀ s t : String, Text.sameLetters s t → a.findTag root s = b.findTag root t) ∧
    (∀ s t : String, Text.sameLetters s t → a.findClass root s = b.findClass root t) ∧
    a.findText root = b.findText root := by
  refine ⟨fun s t hst => h.query_eq root hst, fun s t hst => ?_, fun s t hst => ?_, ?_⟩
  · exact h.search_eq (.tag hst) root.toList
  · exact h.search_eq (.ofClass hst) root.toList
  · exact h.search_eq .text root.toList

/-- A list item of a class whose capital has a small letter of two characters, with its text. -/
def dotted : Arena where
  nodes := #[{ Node.element "UL" [] with children := [1, 7] },
    { Node.element "LI" [⟨"class", "x \u0130"⟩, ⟨"id", "K"⟩] with
      parent := some 0, children := [2] },
    Node.text "one"]
  root := some 0

/-- The same in small letters, and with all else changed. -/
def undotted : Arena where
  nodes := #[{ Node.element "ul" [⟨"Class", "x"⟩] with id := 9, children := [1, 7] },
    { Node.element "li" [⟨"class", "X i\u0307"⟩, ⟨"class", "y"⟩] with children := [2] },
    { Node.comment "two" with kind := .text, parent := some 4 }]
  root := none

theorem searches_eq_of_alike_dotted :
    dotted.Alike undotted ∧ Text.sameLetters ".\u0130 *" ".i\u0307 *" ∧
      dotted.query (some 0) ".\u0130 *" = undotted.query (some 0) ".i\u0307 *" ∧
      dotted.findTag (some 0) "Li" = undotted.findTag (some 0) "lI" ∧
      dotted.query (some 0) ".\u0130 *" = [2] := by
  have h : dotted.Alike undotted := by
    refine ⟨rfl, fun i m n hm hn => ?_⟩
    match i with
    | 0 => cases hm; cases hn; exact ⟨rfl, rfl, fun _ => by decide, fun _ => .none⟩
    | 1 =>
      cases hm; cases hn
      exact ⟨rfl, rfl, fun _ => by decide, fun _ => .some (by decide)⟩
    | 2 => cases hm; cases hn; exact ⟨rfl, rfl, by decide, fun e => absurd e (by decide)⟩
    | i + 3 => cases hm
  have hst : Text.sameLetters ".\u0130 *" ".i\u0307 *" = true := by decide
  obtain ⟨queries, tags, -⟩ := searches_eq_of_alike h (some 0)
  refine ⟨h, hst, queries _ _ hst, tags "Li" "lI" (by decide), ?_⟩
  have hparse : (Selector.parse ".\u0130 *").stages = [.ofClass "\u0130", .text] := by decide
  rw [query_of_stages_ne_nil (by simp [hparse]), hparse, follow, followFrom_cons, followFrom_cons]
  simp only [findBelow_eq_levels]
  decide

end Arena
end MarkupSearch
