/-
# Selectors and their text

A selector is written as the tokens of its stages with a space between two of them. A token stands
for one stage, but not every stage can be written as a token: a tag name may be empty, may hold a
space, or may begin like a class or a text. The stages that are spelled by their token
(`Stage.Spelled`) are exactly those that reading gives, so a selector is found again from its text
exactly when all its stages are such (`Selector.texts_correspond`), and a text that was written by
a selector that was read stays as it is. Texts with a space between them stand for the stages of
the first and then those of the second.

Key definitions: `Stage.Spelled`, `Selector.Spelled`.
Key theorems: `Selector.tokens_display`, `Selector.stages_parse_append`,
`Selector.texts_correspond`.
-/
import MarkupSearch.Proofs.Pieces
import MarkupSearch.Selector

namespace MarkupSearch

namespace Stage

/-- A stage that its token stands for. -/
def Spelled : Stage → Prop
  | tag name =>
    name ≠ "" ∧ ' ' ∉ name.toList ∧ name.toList.head? ≠ some '.' ∧ name.toList.head? ≠ some '*'
  | ofClass name => ' ' ∉ name.toList
  | text => True

instance : DecidablePred Spelled
  | tag name => inferInstanceAs (Decidable (name ≠ "" ∧ ' ' ∉ name.toList ∧
      name.toList.head? ≠ some '.' ∧ name.toList.head? ≠ some '*'))
  | ofClass name => inferInstanceAs (Decidable (' ' ∉ name.toList))
  | text => inferInstanceAs (Decidable True)

/-- What does not begin like a class or a text is a tag. -/
theorem ofChars_of_head? {cs : List Char} (hdot : cs.head? ≠ some '.')
    (hstar : cs.head? ≠ some '*') : ofChars cs = tag (String.ofList cs) := by
  unfold ofChars
  split
  · exact absurd rfl hdot
  · exact absurd rfl hstar
  · rfl

theorem ofToken_display {s : Stage} (h : s.Spelled) : ofToken s.display = s := by
  cases s with
  | tag name =>
    obtain ⟨-, -, hdot, hstar⟩ := h
    rw [ofToken, display, ofChars_of_head? hdot hstar, String.ofList_toList]
  | ofClass name =>
    rw [ofToken, display, String.toList_append]
    change ofClass (String.ofList name.toList) = _
    rw [String.ofList_toList]
  | text => rfl

/-- The token of a spelled stage is a piece of a text: not empty, and without a space. -/
theorem display_of_spelled {s : Stage} (h : s.Spelled) :
    s.display.toList ≠ [] ∧ ' ' ∉ s.display.toList := by
  cases s with
  | tag name =>
    obtain ⟨hne, hspace, -, -⟩ := h
    exact ⟨by simpa [display] using hne, hspace⟩
  | ofClass name => exact ⟨by simp [display], by simpa [display, Spelled] using h⟩
  | text => exact ⟨by decide, by decide⟩

/-- A piece of a text stands for a spelled stage. -/
theorem spelled_ofChars {cs : List Char} (hne : cs ≠ []) (hspace : ' ' ∉ cs) :
    (ofChars cs).Spelled := by
  unfold ofChars
  split
  · next name => simpa [Spelled] using hspace
  · trivial
  · next hdot hstar =>
    obtain ⟨c, cs, rfl⟩ := List.exists_cons_of_ne_nil hne
    refine ⟨by simp, by simpa using hspace, ?_, ?_⟩
    · rintro h
      simp only [String.toList_ofList, List.head?_cons, Option.some.injEq] at h
      exact hdot cs (by rw [h])
    · rintro h
      simp only [String.toList_ofList, List.head?_cons, Option.some.injEq] at h
      exact hstar cs (by rw [h])

end Stage

namespace Selector

/-- A selector whose stages are all spelled by their tokens. -/
def Spelled (s : Selector) : Prop := ∀ stage ∈ s.stages, stage.Spelled

/-! ### Reading -/

theorem stages_parse (t : String) :
    (parse t).stages = (Text.piecesAt (· == ' ') t.toList).map Stage.ofChars := by
  rw [parse, tokens, List.map_map]
  refine List.map_congr_left fun cs _ => ?_
  rw [Function.comp_apply, Stage.ofToken, String.toList_ofList]

/-- What is read is spelled. -/
theorem spelled_parse (t : String) : (parse t).Spelled := by
  intro stage hs
  rw [stages_parse, List.mem_map] at hs
  obtain ⟨cs, hcs, rfl⟩ := hs
  obtain ⟨hne, hsep⟩ := Text.of_mem_piecesAt hcs
  refine Stage.spelled_ofChars hne fun hspace => ?_
  have := hsep ' ' hspace
  simp at this

/-- **Texts with a space between them** stand for the stages of both. -/
theorem stages_parse_append (t u : String) :
    (parse (t ++ " " ++ u)).stages = (parse t).stages ++ (parse u).stages := by
  have hlist : (t ++ " " ++ u).toList = t.toList ++ ' ' :: u.toList := by simp
  rw [stages_parse, hlist, Text.piecesAt_append_cons (by rfl), List.map_append, stages_parse,
    stages_parse]

/-- A text stands for no stage exactly when it is made of spaces only. -/
theorem stages_parse_eq_nil_iff (t : String) :
    (parse t).stages = [] ↔ ∀ c ∈ t.toList, c = ' ' := by
  rw [stages_parse, List.map_eq_nil_iff, Text.piecesAt_eq_nil_iff]
  simp

/-! ### Writing and reading again -/

theorem tokens_display {s : Selector} (h : s.Spelled) :
    tokens s.display = s.stages.map Stage.display := by
  have pieces : ∀ p ∈ (s.stages.map Stage.display).map String.toList,
      p ≠ [] ∧ ∀ d ∈ p, (d == ' ') = false := by
    intro p hp
    simp only [List.mem_map] at hp
    obtain ⟨_, ⟨stage, hstage, rfl⟩, rfl⟩ := hp
    obtain ⟨hne, hspace⟩ := Stage.display_of_spelled (h stage hstage)
    refine ⟨hne, fun d hd => ?_⟩
    rw [beq_eq_false_iff_ne]
    rintro rfl
    exact hspace hd
  rw [tokens, display, String.toList_intercalate]
  change (Text.piecesAt (· == ' ') ([' '].intercalate _)).map _ = _
  rw [Text.piecesAt_intercalate (by rfl) pieces, List.map_map]
  simp

theorem parse_display {s : Selector} (h : s.Spelled) : parse s.display = s := by
  rw [parse, tokens_display h, List.map_map]
  congr 1
  calc s.stages.map (Stage.ofToken ∘ Stage.display)
      = s.stages.map id := List.map_congr_left fun stage hs => Stage.ofToken_display (h stage hs)
    _ = s.stages := List.map_id _

/-- **Selectors and their text correspond.** A selector is found again from its text exactly when
its stages are spelled by their tokens; every selector that is read is such a one, so writing what
was read gives a text that reading and writing leave alone; and a space between two texts joins
their stages. -/
theorem texts_correspond :
    (∀ s : Selector, parse s.display = s ↔ s.Spelled) ∧
    (∀ t : String, (parse t).Spelled ∧ parse (parse t).display = parse t ∧
      (parse (parse t).display).display = (parse t).display) ∧
    ∀ t u : String, (parse (t ++ " " ++ u)).stages = (parse t).stages ++ (parse u).stages := by
  refine ⟨fun s => ⟨fun h => ?_, parse_display⟩, fun t => ?_, stages_parse_append⟩
  · rw [← h]
    exact spelled_parse s.display
  · have again := parse_display (spelled_parse t)
    exact ⟨spelled_parse t, again, congrArg display again⟩

/-- A class may be without a name, a tag may not be named like a class. -/
example : (Stage.ofClass "").Spelled ∧ ¬ (Stage.tag ".a").Spelled := by decide

end Selector
end MarkupSearch
