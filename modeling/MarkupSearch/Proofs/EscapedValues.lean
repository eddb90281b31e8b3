/-
# Values are known from their markup

Escaping can be undone, so a value is known from what is written for it, wherever it is known which
part of the markup that is. A text that is not below a raw text element is written by itself
(`Arena.value_of_render_eq`). An element's markup begins with its start tag, whatever comes after it
and whether links form cycles or not (`Render.exists_append_of_run`), and in the start tag each
value ends at the first quotation mark; so elements of one name with the same names of attributes
are rendered alike only if their attributes are the same (`Arena.attributes_of_render_eq`).

Key definition: `Node.InRawText`.
Key theorems: `Render.exists_append_of_run`, `Arena.value_of_render_eq`,
`Arena.attributes_of_render_eq`, `Arena.escaping_loses_nothing`.
-/
import MarkupSearch.Proofs.Rendering
import MarkupSearch.Proofs.WrittenTree

namespace MarkupSearch

/-- The parent that a node names is a raw text element. -/
def Node.InRawText (a : Arena) (n : Node) : Prop :=
  ∃ p parent, n.parent = some p ∧ a.get? p = some parent ∧ Render.rawBelow (some parent) = true

namespace Render

variable {a : Arena} {o : Options}

/-- What has been written stays in front of what is written. -/
theorem exists_append_of_run : ∀ (waiting : List Pending) (out s : String),
    (loop a o).run (waiting, out) = .ok s → ∃ rest, s = out ++ rest
  | [], out, s, h => by
    rw [run_nil] at h
    exact ⟨"", by rw [String.append_empty, Except.ok.inj h]⟩
  | p :: waiting, out, s, h => by
    cases hstep : step a o p with
    | error e =>
      rw [run_cons_of_error hstep] at h
      cases h
    | ok r =>
      obtain ⟨text, more⟩ := r
      rw [run_cons_of_ok hstep] at h
      obtain ⟨rest, hrest⟩ := exists_append_of_run (more ++ waiting) (out ++ text) s h
      exact ⟨text ++ rest, by rw [hrest, String.append_assoc]⟩
termination_by waiting => weight a waiting
decreasing_by
  have lighter := weight_step hstep
  rw [← List.singleton_append (l := waiting), weight_append, weight_append]
  omega

end Render

namespace Arena

variable {a b : Arena} {o o' : Render.Options} {id id' : NodeId} {n m : Node} {s : String}

/-! ### Texts -/

theorem render_text (hn : a.get? id = some n) (hk : n.kind = .text) :
    a.render o id = a.nodeMarkup o n (.ok "") := by
  have writes : Render.Writes a o [.opening ⟨id, a.size⟩] (a.nodeMarkup o n (.ok "")) :=
    Render.writes_of_step (Render.step_text hn hk _)
  rw [render, renderOnto, visits, List.map_singleton, List.map_singleton]
  have run := writes [] ""
  rw [List.append_nil] at run
  rw [run]
  cases a.nodeMarkup o n (.ok "") with
  | error e => rfl
  | ok s =>
    change (Render.loop a o).run ([], "" ++ s) = .ok s
    rw [Render.run_nil, String.empty_append]

/-- A text is escaped, unless it is below a raw text element. -/
theorem eq_escape_of_render (hn : a.get? id = some n) (hk : n.kind = .text)
    (hraw : ¬ n.InRawText a) (hs : a.render o id = .ok s) : s = Escape.text .content n.value := by
  rw [render_text hn hk, nodeMarkup] at hs
  simp only [hk] at hs
  cases hp : n.parent with
  | none =>
    rw [hp] at hs
    exact (Except.ok.inj hs).symm
  | some p =>
    simp only [hp] at hs
    cases hq : a.get? p with
    | none =>
      rw [hq] at hs
      cases hs
    | some parent =>
      have plain : ¬ (parent.kind = .element ∧ Render.isRawText parent.name = true) := by
        intro h
        refine hraw ⟨p, parent, hp, hq, ?_⟩
        simpa [Render.rawBelow, Node.isElement] using h
      simp only [hq, if_neg plain] at hs
      exact (Except.ok.inj hs).symm

/-- **A text is known from its markup**, unless it is below a raw text element. -/
theorem value_of_render_eq (hn : a.get? id = some n) (hm : b.get? id' = some m)
    (hk : n.kind = .text) (hk' : m.kind = .text) (hraw : ¬ n.InRawText a)
    (hraw' : ¬ m.InRawText b) (hs : a.render o id = .ok s) (hs' : b.render o' id' = .ok s) :
    n.value = m.value := by
  have written := eq_escape_of_render hn hk hraw hs
  rw [eq_escape_of_render hm hk' hraw' hs'] at written
  exact (Escape.text_injective .content written).symm

/-! ### Attribute values -/

/-- Attributes of the same names are known from what is written for them, whatever follows: each
value ends at the first quotation mark. -/
theorem attributes_eq_of_append : ∀ {ts us : List Attribute} {x y : List Char},
    ts.map (·.name) = us.map (·.name) →
    (ts.flatMap fun t => (Render.attributeText t).toList) ++ x =
      (us.flatMap fun t => (Render.attributeText t).toList) ++ y → ts = us
  | [], [], _, _, _, _ => rfl
  | ⟨name, v⟩ :: ts, ⟨name', w⟩ :: us, x, y, hnames, h => by
    simp only [List.map_cons, List.cons.injEq] at hnames
    obtain ⟨rfl, hnames⟩ := hnames
    rw [List.flatMap_cons, List.flatMap_cons, MarkupAttribute.toList_attributeText,
      MarkupAttribute.toList_attributeText] at h
    simp only [MarkupAttribute.written, MarkupAttribute.name, List.append_assoc,
      List.cons_append, List.nil_append, List.cons.injEq, true_and,
      List.append_cancel_left_eq] at h
    have value := congrArg (List.takeWhile (· ≠ '"')) h
    have more := congrArg (List.dropWhile (· ≠ '"')) h
    rw [takeWhile_value, takeWhile_value, ← Escape.toList_text, ← Escape.toList_text,
      String.toList_inj] at value
    rw [dropWhile_value, dropWhile_value, List.cons.injEq] at more
    rw [Escape.text_injective .quoted value, attributes_eq_of_append hnames more.2]

/-- The markup of an element begins with its start tag. -/
theorem exists_startTag_append (hn : a.get? id = some n) (hk : n.kind = .element)
    (hs : a.render o id = .ok s) : ∃ rest, s = Render.startTag n ++ rest := by
  obtain ⟨more, hstep⟩ : ∃ more, Render.step a o (.opening ⟨id, a.size⟩) =
      .ok (Render.startTag n, more) := by
    rw [Render.step_opening hn, Render.openNode]
    simp only [hk]
    split
    · exact ⟨_, rfl⟩
    · exact ⟨_, rfl⟩
  rw [render, renderOnto, visits, List.map_singleton, List.map_singleton,
    Render.run_cons_of_ok hstep, String.empty_append] at hs
  exact Render.exists_append_of_run _ _ _ hs

/-- **Attributes are known from the markup of an element**, given its name and theirs. -/
theorem attributes_of_render_eq (hn : a.get? id = some n) (hm : b.get? id' = some m)
    (hk : n.kind = .element) (hk' : m.kind = .element) (hname : n.name = m.name)
    (hnames : n.attributes.map (·.name) = m.attributes.map (·.name))
    (hs : a.render o id = .ok s) (hs' : b.render o' id' = .ok s) :
    n.attributes = m.attributes := by
  obtain ⟨rest, hrest⟩ := exists_startTag_append hn hk hs
  obtain ⟨rest', hrest'⟩ := exists_startTag_append hm hk' hs'
  rw [hrest, ← String.toList_inj] at hrest'
  simp only [Render.startTag, hname, String.toList_append, String.toList_join, List.append_assoc,
    List.append_cancel_left_eq, List.flatMap_map] at hrest'
  exact attributes_eq_of_append hnames hrest'

/-! ### All together -/

/-- **Escaping loses nothing and leaves no delimiter.** At either place the references that are
written can be put back from left to right, every ampersand that is written begins one, no delimiter
of the place is written, texts are escaped one after the other, and no two are escaped alike. So two
texts that are not below raw text elements are rendered alike only if their values are the same, and
two elements of one name and with the same names of attributes only if the values of these are. -/
theorem escaping_loses_nothing :
    (∀ (place : Escape.Place) (s : String),
      Escape.unescape (Escape.text place s).toList = s.toList ∧
      (∀ before after, (Escape.text place s).toList = before ++ '&' :: after →
        ∃ r ∈ Escape.references, r.1 <+: '&' :: after) ∧
      (∀ d ∈ Escape.delimiters place, d ∉ (Escape.text place s).toList) ∧
      (∀ t, Escape.text place (s ++ t) = Escape.text place s ++ Escape.text place t) ∧
      ∀ t, Escape.text place s = Escape.text place t → s = t) ∧
    (∀ (a b : Arena) (o o' : Render.Options) (id id' : NodeId) (n m : Node) (s : String),
      a.get? id = some n → b.get? id' = some m → n.kind = .text → m.kind = .text →
      ¬ n.InRawText a → ¬ m.InRawText b →
      a.render o id = .ok s → b.render o' id' = .ok s → n.value = m.value) ∧
    ∀ (a b : Arena) (o o' : Render.Options) (id id' : NodeId) (n m : Node) (s : String),
      a.get? id = some n → b.get? id' = some m → n.kind = .element → m.kind = .element →
      n.name = m.name → n.attributes.map (·.name) = m.attributes.map (·.name) →
      a.render o id = .ok s → b.render o' id' = .ok s → n.attributes = m.attributes := by
  refine ⟨fun place s => ⟨?_, ?_, ?_, Escape.text_append place s,
    fun t h => Escape.text_injective place h⟩, fun _ _ _ _ _ _ _ _ _ => value_of_render_eq,
    fun _ _ _ _ _ _ _ _ _ => attributes_of_render_eq⟩
  all_goals rw [Escape.toList_text]
  · exact Escape.unescape_flatMap_char place s.toList
  · exact fun _ _ => Escape.exists_reference_of_flatMap_char
  · exact fun d hd => Escape.not_mem_of_mem_delimiters hd s.toList

/-- A paragraph whose title and text hold references and pieces of them. -/
def lookalike : Arena where
  nodes := #[{ Node.element "p" [⟨"title", "&amp;quot;\"<"⟩] with children := [1] },
    { Node.text "&amp;lt; < &am" with parent := some 0 }]
  root := some 0

/-- The same under other ids, the text without a parent. -/
def likewise : Arena where
  nodes := #[Node.text "&amp;lt; < &am",
    { Node.element "p" [⟨"title", "&amp;quot;\"<"⟩] with children := [0] }]
  root := none

theorem escaping_loses_nothing_lookalike :
    ("&amp;am".toList = [] ++ '&' :: "amp;am".toList ∧
      ∃ r ∈ Escape.references, r.1 <+: '&' :: "amp;am".toList) ∧
    (lookalike.render {} 1 = .ok "&amp;amp;lt; &lt; &amp;am" ∧
      likewise.render {} 0 = .ok "&amp;amp;lt; &lt; &amp;am" ∧
      (Node.text "&amp;lt; < &am").value = "&amp;lt; < &am") ∧
    lookalike.render {} 0 =
      .ok "<p title=\"&amp;amp;quot;&quot;<\">&amp;amp;lt; &lt; &amp;am</p>" ∧
    likewise.render {} 1 =
      .ok "<p title=\"&amp;amp;quot;&quot;<\">&amp;amp;lt; &lt; &amp;am</p>" ∧
    (Node.element "p" [⟨"title", "&amp;quot;\"<"⟩]).attributes =
      [⟨"title", "&amp;quot;\"<"⟩] := by
  obtain ⟨places, texts, attributes⟩ := escaping_loses_nothing
  have text : lookalike.render {} 1 = .ok "&amp;amp;lt; &lt; &amp;am" := by decide +kernel
  have text' : likewise.render {} 0 = .ok "&amp;amp;lt; &lt; &amp;am" := by decide +kernel
  have element : lookalike.render {} 0 =
      .ok "<p title=\"&amp;amp;quot;&quot;<\">&amp;amp;lt; &lt; &amp;am</p>" := by decide +kernel
  have element' : likewise.render {} 1 =
      .ok "<p title=\"&amp;amp;quot;&quot;<\">&amp;amp;lt; &lt; &amp;am</p>" := by decide +kernel
  have inParagraph : ¬ ({ Node.text "&amp;lt; < &am" with parent := some 0 } : Node).InRawText
      lookalike := by
    rintro ⟨p, parent, hp, hq, hraw⟩
    cases hp
    cases hq
    exact absurd hraw (by decide)
  have alone : ¬ (Node.text "&amp;lt; < &am").InRawText likewise := by
    rintro ⟨p, parent, hp, -⟩
    cases hp
  have ampersand : (Escape.text .content "&am").toList = [] ++ '&' :: "amp;am".toList := by decide
  refine ⟨⟨by decide, (places .content "&am").2.1 _ _ ampersand⟩, ⟨text, text', ?_⟩, element,
    element', ?_⟩
  · exact texts lookalike likewise {} {} 1 0 _ _ _ rfl rfl rfl rfl inParagraph alone text text'
  · exact attributes lookalike likewise {} {} 0 1 _ _ _ rfl rfl rfl rfl rfl rfl element element'

end Arena
end MarkupSearch
