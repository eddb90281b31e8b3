/-
# Words and classes

A piece of a text between separators is told by what it is and where it stands: it is not empty,
holds no separator, and has a separator or an end of the text on either side
(`Text.mem_piecesAt_iff`). The words of a text are such pieces between white space
(`Text.mem_words_iff`).

An element is of a class exactly when one of the words of its first `class` attribute is the name of
the class up to letter case. Lowercasing keeps white space and makes none, and makes something out
of every character, so a name that is empty or holds white space is not that of any word
(`Text.WordIn.name`), and no element is of such a class (`Stage.accepts_ofClass_iff`).

Key definitions: `Text.StandsIn`, `Text.WordIn`.
Key theorems: `Text.mem_piecesAt_iff`, `Text.mem_words_iff`, `Node.hasClass_iff`,
`Stage.accepts_ofClass_iff`.
-/
import MarkupSearch.Proofs.LetterCase
import MarkupSearch.Selector

namespace MarkupSearch
namespace Text

/-! ### Where a piece stands -/

section

variable {sep : Char → Bool} {p cs : List Char} {c : Char}

/-- A part of a text that has a separator or an end of the text on either side. -/
def StandsIn (sep : Char → Bool) (p cs : List Char) : Prop :=
  ∃ before after, cs = before ++ p ++ after ∧
    (before = [] ∨ ∃ c ∈ before.getLast?, sep c = true) ∧
    (after = [] ∨ ∃ c ∈ after.head?, sep c = true)

theorem standsIn_self (p : List Char) : StandsIn sep p p :=
  ⟨[], [], by rw [List.nil_append, List.append_nil], .inl rfl, .inl rfl⟩

/-- A text may go on after a separator. -/
theorem StandsIn.append_cons (h : StandsIn sep p cs) (hc : sep c = true) (ys : List Char) :
    StandsIn sep p (cs ++ c :: ys) := by
  obtain ⟨before, after, rfl, hbefore, hafter⟩ := h
  refine ⟨before, after ++ c :: ys, List.append_assoc _ _ _, hbefore, .inr ?_⟩
  rcases hafter with rfl | ⟨d, hd, hsep⟩
  · exact ⟨c, rfl, hc⟩
  · obtain ⟨after, rfl⟩ := List.head?_eq_some_iff.mp hd
    exact ⟨d, rfl, hsep⟩

/-- A text may begin before a separator. -/
theorem StandsIn.cons_append (h : StandsIn sep p cs) (hc : sep c = true) (xs : List Char) :
    StandsIn sep p (xs ++ c :: cs) := by
  obtain ⟨before, after, rfl, hbefore, hafter⟩ := h
  refine ⟨xs ++ c :: before, after, by simp, .inr ?_, hafter⟩
  rcases hbefore with rfl | ⟨d, hd, hsep⟩
  · exact ⟨c, List.getLast?_concat, hc⟩
  · obtain ⟨before, rfl⟩ := List.getLast?_eq_some_iff.mp hd
    refine ⟨d, ?_, hsep⟩
    rw [← List.cons_append, ← List.append_assoc]
    exact List.getLast?_concat

/-- A text that holds a separator is parted there, and a piece stands in the part it comes from. -/
theorem standsIn_of_mem_piecesAt : ∀ cs : List Char, p ∈ piecesAt sep cs → StandsIn sep p cs := by
  intro cs h
  by_cases free : ∀ c ∈ cs, sep c = false
  · have hne : cs ≠ [] := by
      rintro rfl
      simp [piecesAt] at h
    rw [piecesAt_of_forall hne free, List.mem_singleton] at h
    exact h ▸ standsIn_self p
  · obtain ⟨c, hc, hsep⟩ : ∃ c ∈ cs, sep c = true := by simpa using free
    obtain ⟨xs, ys, hcs⟩ := List.append_of_mem hc
    rw [hcs, piecesAt_append_cons hsep, List.mem_append] at h
    rw [hcs]
    rcases h with h | h
    · exact (standsIn_of_mem_piecesAt xs h).append_cons hsep ys
    · exact (standsIn_of_mem_piecesAt ys h).cons_append hsep xs
termination_by cs => cs.length
decreasing_by
  all_goals
    rw [hcs, List.length_append, List.length_cons]
    omega

theorem mem_piecesAt_of_standsIn (hne : p ≠ []) (free : ∀ c ∈ p, sep c = false)
    (h : StandsIn sep p cs) : p ∈ piecesAt sep cs := by
  obtain ⟨before, after, rfl, hbefore, hafter⟩ := h
  have fromThere : p ∈ piecesAt sep (p ++ after) := by
    rcases hafter with rfl | ⟨d, hd, hsep⟩
    · rw [List.append_nil, piecesAt_of_forall hne free]
      exact List.mem_singleton_self p
    · obtain ⟨after, rfl⟩ := List.head?_eq_some_iff.mp hd
      rw [piecesAt_append_cons hsep, piecesAt_of_forall hne free]
      exact List.mem_append_left _ (List.mem_singleton_self p)
  rw [List.append_assoc]
  rcases hbefore with rfl | ⟨d, hd, hsep⟩
  · exact fromThere
  · obtain ⟨before, rfl⟩ := List.getLast?_eq_some_iff.mp hd
    rw [List.append_assoc, List.singleton_append, piecesAt_append_cons hsep]
    exact List.mem_append_right _ fromThere

/-- **What a piece is**: not empty, without a separator, and between separators or ends. -/
theorem mem_piecesAt_iff :
    p ∈ piecesAt sep cs ↔ p ≠ [] ∧ (∀ c ∈ p, sep c = false) ∧ StandsIn sep p cs := by
  constructor
  · intro h
    obtain ⟨hne, free⟩ := of_mem_piecesAt h
    exact ⟨hne, free, standsIn_of_mem_piecesAt cs h⟩
  · rintro ⟨hne, free, stands⟩
    exact mem_piecesAt_of_standsIn hne free stands

end

/-! ### Words -/

/-- A word of a text: it is not empty, holds no ASCII white space, and has ASCII white space or an
end of the text on either side. -/
def WordIn (w s : String) : Prop :=
  w ≠ "" ∧ (∀ c ∈ w.toList, isSpace c = false) ∧
    ∃ p q : String, s = p ++ w ++ q ∧
      (p = "" ∨ ∃ c ∈ p.toList.getLast?, isSpace c = true) ∧
      (q = "" ∨ ∃ c ∈ q.toList.head?, isSpace c = true)

/-- **The words of a text** are those that it has in this sense. -/
theorem mem_words_iff {w s : String} : w ∈ words s ↔ WordIn w s := by
  have piece : w ∈ words s ↔ w.toList ∈ piecesAt isSpace s.toList := by
    rw [words, List.mem_map]
    constructor
    · rintro ⟨p, hp, rfl⟩
      rwa [String.toList_ofList]
    · exact fun h => ⟨w.toList, h, String.ofList_toList⟩
  rw [piece, mem_piecesAt_iff, WordIn, Ne, String.toList_eq_nil_iff]
  refine and_congr_right fun _ => and_congr_right fun _ => ⟨?_, ?_⟩
  · rintro ⟨before, after, hs, hbefore, hafter⟩
    refine ⟨String.ofList before, String.ofList after, ?_, ?_, ?_⟩
    · rw [← String.toList_inj, hs]
      simp
    · simpa using hbefore
    · simpa using hafter
  · rintro ⟨p, q, rfl, hp, hq⟩
    refine ⟨p.toList, q.toList, by simp, ?_, ?_⟩
    · simpa using hp
    · simpa using hq

/-! ### Names of classes -/

theorem lowered_eq_nil_iff {s : String} : lowered s = [] ↔ s = "" := by
  rw [lowered, flatMap_lower_eq_nil_iff, String.toList_eq_nil_iff]

/-- Lowercasing keeps the marks of a text and makes none. -/
theorem mem_lowered_iff {m : Char} (hm : isMark m = true) {s : String} :
    m ∈ lowered s ↔ m ∈ s.toList := by
  rw [lowered, List.mem_flatMap]
  constructor
  · rintro ⟨c, hc, hmc⟩
    have mark : isMark c = true := by rw [← isMark_of_mem_lower hmc, hm]
    rw [lower_of_isMark mark, List.mem_singleton] at hmc
    rwa [hmc]
  · intro h
    refine ⟨m, h, ?_⟩
    rw [lower_of_isMark hm]
    exact List.mem_singleton_self m

/-- What a word is called, in any letter case, is not empty and holds no white space. -/
theorem WordIn.name {w s name : String} (h : WordIn w s) (hname : lowered w = lowered name) :
    name ≠ "" ∧ ∀ c ∈ name.toList, isSpace c = false := by
  obtain ⟨hne, free, -⟩ := h
  constructor
  · rintro rfl
    rw [lowered_eq_nil_iff.mpr rfl, lowered_eq_nil_iff] at hname
    exact hne hname
  · intro c hc
    by_contra hspace
    rw [Bool.not_eq_false] at hspace
    have mark : isMark c = true := by simp [isMark, hspace]
    have inWord : c ∈ w.toList := by
      rwa [← mem_lowered_iff mark, hname, mem_lowered_iff mark]
    rw [free c inWord] at hspace
    exact absurd hspace (by decide)

end Text

namespace Node

variable {n : Node} {name : String}

/-- The value of an attribute is that of the first one with its name. -/
theorem attr_eq_some_iff {v : String} :
    n.attr name = some v ↔ ∃ before after, n.attributes = before ++ ⟨name, v⟩ :: after ∧
      ∀ t ∈ before, t.name ≠ name := by
  simp only [attr, Option.map_eq_some_iff, List.find?_eq_some_iff_append, beq_iff_eq,
    Bool.not_eq_true', beq_eq_false_iff_ne]
  constructor
  · rintro ⟨t, ⟨rfl, before, after, hsplit, hbefore⟩, rfl⟩
    exact ⟨before, after, hsplit, hbefore⟩
  · rintro ⟨before, after, hsplit, hbefore⟩
    exact ⟨⟨name, v⟩, ⟨rfl, before, after, hsplit, hbefore⟩, rfl⟩

theorem mem_classes_iff {w : String} :
    w ∈ n.classes ↔ ∃ v, n.attr "class" = some v ∧ Text.WordIn w v := by
  rw [classes]
  cases n.attr "class" with
  | none => simp
  | some v => simp [Text.mem_words_iff]

/-- An element is of the classes that the words of its first `class` attribute name. -/
theorem hasClass_iff :
    n.hasClass name = true ↔ n.kind = .element ∧ ∃ v, n.attr "class" = some v ∧
      ∃ w, Text.WordIn w v ∧ Text.lowered w = Text.lowered name := by
  simp only [hasClass, isElement, Bool.and_eq_true, decide_eq_true_eq, List.any_eq_true,
    mem_classes_iff, Text.sameLetters_iff]
  refine and_congr_right fun _ => ⟨?_, ?_⟩
  · rintro ⟨w, ⟨v, hv, hw⟩, hname⟩
    exact ⟨v, hv, w, hw, hname⟩
  · rintro ⟨v, hv, w, hw, hname⟩
    exact ⟨w, ⟨v, hv, hw⟩, hname⟩

/-- No node is of a class without a name, or of a name that holds white space. -/
theorem hasClass_eq_false (h : name = "" ∨ ∃ c ∈ name.toList, Text.isSpace c = true) :
    n.hasClass name = false := by
  by_contra hclass
  rw [Bool.not_eq_false] at hclass
  obtain ⟨-, v, -, w, hw, hname⟩ := hasClass_iff.mp hclass
  obtain ⟨hne, free⟩ := hw.name hname
  rcases h with rfl | ⟨c, hc, hspace⟩
  · exact hne rfl
  · rw [free c hc] at hspace
    exact absurd hspace (by decide)

end Node

namespace Stage

/-- **Being of a class is having its name among the words.** A node passes the stage of a class
exactly when it is an element, has a `class` attribute, and the value of the first one has a word
that is the name up to letter case. No node passes the stage of a class without a name, or of a name
that holds white space. -/
theorem accepts_ofClass_iff :
    (∀ (n : Node) (name : String), (ofClass name).accepts n = true ↔
      n.kind = .element ∧
        ∃ before v after, n.attributes = before ++ ⟨"class", v⟩ :: after ∧
          (∀ t ∈ before, t.name ≠ "class") ∧
          ∃ w, Text.WordIn w v ∧ Text.lowered w = Text.lowered name) ∧
    ∀ (n : Node) (name : String),
      (name = "" ∨ ∃ c ∈ name.toList, Text.isSpace c = true) →
        (ofClass name).accepts n = false := by
  refine ⟨fun n name => ?_, fun n name => Node.hasClass_eq_false⟩
  rw [accepts, Node.hasClass_iff]
  refine and_congr_right fun _ => ⟨?_, ?_⟩
  · rintro ⟨v, hv, word⟩
    obtain ⟨before, after, hsplit, hbefore⟩ := Node.attr_eq_some_iff.mp hv
    exact ⟨before, v, after, hsplit, hbefore, word⟩
  · rintro ⟨before, v, after, hsplit, hbefore, word⟩
    exact ⟨v, Node.attr_eq_some_iff.mpr ⟨before, after, hsplit, hbefore⟩, word⟩

/-- An element with two `class` attributes and one of a name that is not quite that. In the value of
the first of the two, a vertical tab and a no-break space belong to the word that they stand in, and
the other word has a capital whose small letter is two characters. -/
def twiceClassed : Node :=
  Node.element "p" [⟨"Class", "z"⟩, ⟨"class", "\x0bA\u00a0b \t\u0130K"⟩, ⟨"class", "y"⟩]

theorem accepts_ofClass_iff_twiceClassed :
    (ofClass "i\u0307k").accepts twiceClassed = true ∧
      (ofClass "\x0ba\u00a0B").accepts twiceClassed = true ∧
      (ofClass "").accepts twiceClassed = false ∧
      (∃ c ∈ "b \t".toList, Text.isSpace c = true) ∧
      (ofClass "b \t").accepts twiceClassed = false := by
  obtain ⟨passes, fails⟩ := accepts_ofClass_iff
  have first : ∀ t ∈ [(⟨"Class", "z"⟩ : Attribute)], t.name ≠ "class" := by decide
  have space : ∃ c ∈ "b \t".toList, Text.isSpace c = true := ⟨' ', by simp, by decide⟩
  refine ⟨(passes _ _).mpr ⟨rfl, _, _, _, rfl, first, "\u0130K", ?_, by decide⟩,
    (passes _ _).mpr ⟨rfl, _, _, _, rfl, first, "\x0bA\u00a0b", ?_, by decide⟩,
    fails _ _ (.inl rfl), space, fails _ _ (.inr space)⟩
  · exact ⟨by decide, by simp [Text.isSpace], "\x0bA\u00a0b \t", "", by decide,
      .inr ⟨'\t', by decide, by decide⟩, .inl rfl⟩
  · exact ⟨by decide, by simp [Text.isSpace], "", " \t\u0130K", by decide, .inl rfl,
      .inr ⟨' ', by decide, by decide⟩⟩

end Stage
end MarkupSearch
