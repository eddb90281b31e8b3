/-
# Rendering is unambiguous

A clean tree under a document node is one whose parts can all be told from their markup: names hold
nothing that ends them, comments hold no end mark, no two texts stand side by side, and what is not
written, such as a child of a void element, is not there. Attribute values and texts outside raw
text elements are free.

Such a tree is written just as the tree of labels that it spans (`exists_spans`), and no two clean
trees of labels are written alike; so the whole tree is known from the text that its document is
rendered to, whatever the arena and the ids in it.

Key definitions: `Node.label`, `Arena.Spans`, `Arena.Clean`.
Key theorem: `Arena.exists_spans_of_render_eq`.
-/
import Mathlib.Data.List.Chain
import MarkupSearch.Proofs.Rendering
import MarkupSearch.Proofs.WrittenTree

namespace MarkupSearch

namespace Node

/-- What a node is, apart from its links: its kind and what a node of that kind carries. -/
def label (n : Node) : Label :=
  match n.kind with
  | .document => .document
  | .doctype => .doctype n.name
  | .text => .text n.value
  | .comment => .comment n.value
  | .instruction => .instruction n.name n.value
  | .element => .element n.name (n.attributes.map fun t => ⟨none, t.name, t.value⟩)

/-- A node that can stand below a node `m` at `p`: `p` is its parent, it is no document, its label
is clean there, and only an element that is not void has children. -/
def CleanBelow (n : Node) (p : NodeId) (m : Node) : Prop :=
  n.parent = some p ∧ n.label.Clean (Render.rawBelow (some m)) ∧
    (n.label.inside = none → n.children = [])

instance (n : Node) (p : NodeId) (m : Node) : Decidable (n.CleanBelow p m) :=
  inferInstanceAs (Decidable (n.parent = some p ∧ n.label.Clean (Render.rawBelow (some m)) ∧
    (n.label.inside = none → n.children = [])))

theorem isText_label (n : Node) : n.label.isText ↔ n.kind = .text := by
  unfold label
  cases hk : n.kind <;> simp [Label.isText]

/-- Texts below an element whose children are written are raw as its name says. -/
theorem rawBelow_of_inside {n : Node} {inside : Bool} (h : n.label.inside = some inside) :
    Render.rawBelow (some n) = inside := by
  unfold label at h
  cases hk : n.kind <;> simp only [hk, Label.inside] at h
  case element =>
    split at h
    · exact absurd h (by simp)
    · rw [← Option.some.inj h, Render.rawBelow, Node.isElement, hk]
      rfl
  all_goals exact absurd h (by simp)

end Node

namespace Arena

mutual
/-- The node at an id, with all below it, is this tree of labels. -/
def Spans (a : Arena) : Tree → NodeId → Prop
  | .node label below, id =>
    ∃ n, a.get? id = some n ∧ n.label = label ∧ a.SpansAll below n.children

/-- The nodes at these ids are these trees, in order. -/
def SpansAll (a : Arena) : List Tree → List NodeId → Prop
  | [], [] => True
  | t :: ts, id :: ids => a.Spans t id ∧ a.SpansAll ts ids
  | _, _ => False
end

/-- Not both are texts. -/
def Apart (a : Arena) (x y : NodeId) : Prop :=
  ∀ n ∈ a.get? x, ∀ m ∈ a.get? y, ¬ (n.kind = .text ∧ m.kind = .text)

instance (a : Arena) : DecidableRel a.Apart := fun x y =>
  inferInstanceAs (Decidable (∀ n ∈ a.get? x, ∀ m ∈ a.get? y, ¬ (n.kind = .text ∧ m.kind = .text)))

/-- The children of a node `m` at `p` are clean there, and no two neighbours are texts. -/
def CleanAt (a : Arena) (p : NodeId) (m : Node) : Prop :=
  (∀ c ∈ m.children, ∀ n ∈ a.get? c, n.CleanBelow p m) ∧ m.children.IsChain a.Apart

instance (a : Arena) (p : NodeId) : DecidablePred (a.CleanAt p) := fun m =>
  -- by way of the list, since the type of ids is finite too but large
  haveI : Decidable (∀ c ∈ m.children, ∀ n ∈ a.get? c, n.CleanBelow p m) := List.decidableBAll _ _
  inferInstanceAs (Decidable (_ ∧ m.children.IsChain a.Apart))

/-- A document node with a finite clean tree below it. -/
structure Clean (a : Arena) (d : NodeId) : Prop where
  document : ∃ n, a.get? d = some n ∧ n.kind = .document
  finite : a.AcyclicFrom d
  clean : ∀ p m, Relation.ReflTransGen a.Lists d p → a.get? p = some m → a.CleanAt p m

variable {a : Arena}

/-- The children of every node can be gone through one after the other. -/
theorem cleanAt_of_forall
    (h : ∀ (i : Nat) (hi : i < a.nodes.size), a.CleanAt i.toUInt32 a.nodes[i]) {p : NodeId}
    {m : Node} (hm : a.get? p = some m) : a.CleanAt p m := by
  obtain ⟨hp, rfl⟩ := Array.getElem?_eq_some_iff.mp hm
  have := h p.toNat hp
  rwa [show p.toNat.toUInt32 = p from UInt32.ofNat_toNat] at this

/-! ### The markup of a label -/

theorem toList_join_attributeText (ts : List Attribute) :
    (String.join (ts.map fun t =>
      " " ++ t.name ++ "=\"" ++ Escape.text .quoted t.value ++ "\"")).toList =
      (ts.map fun t => (⟨none, t.name, t.value⟩ : MarkupAttribute)).flatMap
        MarkupAttribute.written := by
  rw [String.toList_join, List.flatMap_map, List.flatMap_map]
  exact List.flatMap_congr fun t _ => MarkupAttribute.toList_attributeText t

/-- The markup of a clean node is what is written for its label, before that of its children and
the end tag where these are written at all. -/
theorem toList_nodeMarkup {p : NodeId} {m n : Node} {inner : Except Failure String} {s : String}
    (hm : a.get? p = some m) (hn : n.CleanBelow p m) (h : a.nodeMarkup {} n inner = .ok s) :
    match n.label.inside with
    | none => s.toList = n.label.written (Render.rawBelow (some m))
    | some _ => ∃ i, inner = .ok i ∧
        s.toList = n.label.written (Render.rawBelow (some m)) ++ (i.toList ++ n.label.endTag) := by
  obtain ⟨hp, hclean, -⟩ := hn
  unfold nodeMarkup at h
  unfold Node.label at hclean ⊢
  cases hk : n.kind <;> simp only [hk] at h hclean ⊢
  case element =>
    by_cases hv : Render.isVoid n.name = true
    · rw [if_pos hv] at h
      simp only [Label.inside, if_pos hv]
      obtain rfl := Except.ok.inj h
      simp [Label.written, ← toList_join_attributeText]
    · rw [if_neg hv] at h
      simp only [Label.inside, if_neg hv]
      cases inner with
      | error e => exact absurd h (by simp [Except.map])
      | ok i =>
        obtain rfl := Except.ok.inj h
        exact ⟨i, rfl, by simp [Label.written, Label.endTag, ← toList_join_attributeText]⟩
  case text =>
    simp only [hp, hm] at h
    simp only [Label.inside, Label.written, Render.rawBelow, Node.isElement, Bool.and_eq_true,
      decide_eq_true_eq]
    split at h
    · next hraw =>
      obtain rfl := Except.ok.inj h
      rw [if_pos hraw]
    · next hraw =>
      obtain rfl := Except.ok.inj h
      rw [if_neg hraw, Escape.toList_text]
  case document => exact hclean.elim
  all_goals
    obtain rfl := Except.ok.inj h
    simp [Label.inside, Label.written]

/-! ### The tree that is written -/

theorem exists_of_inOrder_cons {r : Except Failure String} {rs : List (Except Failure String)}
    {s : String} (h : Render.inOrder (r :: rs) = .ok s) :
    ∃ u v, r = .ok u ∧ Render.inOrder rs = .ok v ∧ s = u ++ v := by
  rw [Render.inOrder] at h
  cases r with
  | error e => cases h
  | ok u =>
    cases hv : Render.inOrder rs with
    | error e =>
      rw [hv] at h
      cases h
    | ok v =>
      rw [hv] at h
      exact ⟨u, v, rfl, rfl, (Except.ok.inj h).symm⟩

theorem Apart.of_spans {x y : NodeId} {t u : Tree} (h : a.Apart x y) (ht : a.Spans t x)
    (hu : a.Spans u y) : t.Apart u := by
  cases t with
  | node label below =>
    cases u with
    | node label' below' =>
      obtain ⟨n, hn, rfl, -⟩ := ht
      obtain ⟨m, hm, rfl, -⟩ := hu
      rintro ⟨htext, htext'⟩
      exact h n hn m hm ⟨n.isText_label.mp htext, m.isText_label.mp htext'⟩

theorem spans_head {ts : List Tree} {ids : List NodeId} {u : Tree} (h : a.SpansAll ts ids)
    (hu : u ∈ ts.head?) : ∃ id ∈ ids.head?, a.Spans u id := by
  match ts, ids, h with
  | t :: ts, id :: ids, ⟨ht, _⟩ =>
    obtain rfl : t = u := Option.some.inj hu
    exact ⟨id, rfl, ht⟩

/-- Siblings are written as the trees that each of them is written as. -/
theorem exists_spansAll {raw : Bool} : ∀ (ids : List NodeId) (h : ∀ id ∈ ids, a.AcyclicFrom id)
    (s : String), (∀ id (hid : id ∈ ids) (s : String), a.markup {} id (h id hid) = .ok s →
      ∃ t, a.Spans t id ∧ t.Clean raw ∧ s.toList = t.chars raw) →
    ids.IsChain a.Apart → Render.inOrder (ids.pmap (a.markup {}) h) = .ok s →
    ∃ ts, a.SpansAll ts ids ∧ Tree.CleanAll raw ts ∧ s.toList = Tree.charsAll raw ts
  | [], _, s, _, _, hs => by
    obtain rfl := Except.ok.inj hs
    exact ⟨[], trivial, trivial, rfl⟩
  | id :: ids, h, s, each, apart, hs => by
    obtain ⟨u, v, hu, hv, rfl⟩ := exists_of_inOrder_cons hs
    obtain ⟨next, apart⟩ := List.isChain_cons.mp apart
    obtain ⟨t, ht, htclean, hu⟩ := each id List.mem_cons_self u hu
    obtain ⟨ts, hts, htsclean, hv⟩ := exists_spansAll ids
      (fun c hc => h c (List.mem_cons_of_mem _ hc)) v
      (fun c hc => each c (List.mem_cons_of_mem _ hc)) apart hv
    refine ⟨t :: ts, ⟨ht, hts⟩, ⟨htclean, htsclean, fun u hu => ?_⟩, ?_⟩
    · obtain ⟨c, hc, hspans⟩ := spans_head hts hu
      exact (next c hc).of_spans ht hspans
    · rw [String.toList_append, hu, hv, Tree.charsAll]

/-- **A clean node is written as a clean tree**, the one that it is. -/
theorem exists_spans {p c : NodeId} {m : Node} (h : a.AcyclicFrom c)
    (clean : ∀ q k, Relation.ReflTransGen a.Lists c q → a.get? q = some k → a.CleanAt q k)
    (hm : a.get? p = some m) (hc : ∀ n ∈ a.get? c, n.CleanBelow p m) (s : String)
    (hs : a.markup {} c h = .ok s) :
    ∃ t, a.Spans t c ∧ t.Clean (Render.rawBelow (some m)) ∧
      s.toList = t.chars (Render.rawBelow (some m)) := by
  cases hn : a.get? c with
  | none =>
    rw [markup_of_get?_eq_none h hn] at hs
    cases hs
  | some n =>
    rw [markup_of_get? h hn] at hs
    have hwritten := toList_nodeMarkup hm (hc n hn) hs
    obtain ⟨-, hlabel, alone⟩ := hc n hn
    cases hin : n.label.inside with
    | none =>
      rw [hin] at hwritten
      refine ⟨.node n.label [], ⟨n, hn, rfl, ?_⟩, ⟨hlabel, ?_⟩, ?_⟩
      · rw [alone hin]
        trivial
      · rw [hin]
      · rw [Tree.chars, hin, hwritten, List.append_nil]
    | some inside =>
      rw [hin] at hwritten
      obtain ⟨i, hi, hwritten⟩ := hwritten
      obtain ⟨fits, apart⟩ := clean c n .refl hn
      rw [← Node.rawBelow_of_inside hin] at hin
      obtain ⟨ts, hts, htsclean, hi⟩ := exists_spansAll n.children _ i (fun d hd =>
        exists_spans _ (fun q k hq => clean q k (hq.head (lists_of_mem_children hn hd))) hn
          (fits d hd)) apart hi
      refine ⟨.node n.label ts, ⟨n, hn, rfl, hts⟩, ⟨hlabel, ?_⟩, ?_⟩
      · rw [hin]
        exact htsclean
      · rw [Tree.chars, hin, hwritten, hi]
termination_by (⟨c, h⟩ : {id : NodeId // a.AcyclicFrom id})
decreasing_by exact lists_of_mem_children hn hd

/-- A clean document is rendered as the markup of the clean trees below it. -/
theorem exists_spans_document {d : NodeId} {s : String} (h : a.Clean d)
    (hs : a.render {} d = .ok s) :
    ∃ ts, a.Spans (.node .document ts) d ∧ Tree.CleanAll false ts ∧
      s.toList = Tree.charsAll false ts := by
  obtain ⟨n, hn, hk⟩ := h.document
  obtain ⟨fits, apart⟩ := h.clean d n .refl hn
  have hraw : Render.rawBelow (some n) = false := by
    rw [Render.rawBelow, Node.isElement, hk]
    rfl
  rw [render_eq h.finite, markup_of_get? h.finite hn, nodeMarkup] at hs
  simp only [hk] at hs
  obtain ⟨ts, hts, hclean, hs⟩ := exists_spansAll n.children _ s
    (fun c hc => exists_spans _ (fun q k hq => h.clean q k (hq.head (lists_of_mem_children hn hc)))
      hn (fits c hc)) apart hs
  rw [hraw] at hclean hs
  exact ⟨ts, ⟨n, hn, by rw [Node.label, hk], hts⟩, hclean, hs⟩

/-- **Rendering is unambiguous**: clean documents that are rendered to the same text are the same
tree, whatever the two arenas and the ids in them. -/
theorem exists_spans_of_render_eq {a b : Arena} {d e : NodeId} {s : String} (ha : a.Clean d)
    (hb : b.Clean e) (has : a.render {} d = .ok s) (hbs : b.render {} e = .ok s) :
    ∃ t, a.Spans t d ∧ b.Spans t e := by
  obtain ⟨ts, hts, htsclean, hs⟩ := exists_spans_document ha has
  obtain ⟨us, hus, husclean, hs'⟩ := exists_spans_document hb hbs
  obtain rfl : ts = us := Tree.charsAll_injective htsclean husclean (hs.symm.trans hs')
  exact ⟨_, hts, hus⟩

/-- A paragraph with a quoted title, a text and a void element. -/
def quoted : Arena where
  nodes := #[{ Node.document with children := [1] },
    { Node.element "p" [⟨"title", "\"<&\u00a0>"⟩] with parent := some 0, children := [2, 3] },
    { Node.text "a < b" with parent := some 1 },
    { Node.element "BR" [] with parent := some 1 }]
  root := some 0

/-- The same paragraph under other ids. -/
def requoted : Arena where
  nodes := #[Node.text "unlinked",
    { Node.document with children := [2] },
    { Node.element "p" [⟨"title", "\"<&\u00a0>"⟩] with parent := some 1, children := [4, 3] },
    { Node.element "BR" [] with parent := some 2 },
    { Node.text "a < b" with parent := some 2 }]
  root := some 1

theorem exists_spans_of_render_eq_quoted :
    quoted.Clean 0 ∧ requoted.Clean 1 ∧
      quoted.render {} 0 = .ok "<p title=\"&quot;<&amp;&nbsp;>\">a &lt; b<BR></p>" ∧
      requoted.render {} 1 = .ok "<p title=\"&quot;<&amp;&nbsp;>\">a &lt; b<BR></p>" ∧
      ∃ t, quoted.Spans t 0 ∧ requoted.Spans t 1 := by
  have ha : quoted.Clean 0 := {
    document := ⟨_, rfl, rfl⟩
    finite := (acyclic_of_later (by decide)).acyclicFrom 0
    clean := fun _ _ _ => cleanAt_of_forall (by decide) }
  have hb : requoted.Clean 1 := {
    document := ⟨_, rfl, rfl⟩
    finite := (acyclic_of_later (by decide)).acyclicFrom 1
    clean := fun _ _ _ => cleanAt_of_forall (by decide) }
  have has : quoted.render {} 0 = .ok "<p title=\"&quot;<&amp;&nbsp;>\">a &lt; b<BR></p>" := by
    decide +kernel
  have hbs : requoted.render {} 1 = .ok "<p title=\"&quot;<&amp;&nbsp;>\">a &lt; b<BR></p>" := by
    decide +kernel
  exact ⟨ha, hb, has, hbs, exists_spans_of_render_eq ha hb has hbs⟩

end Arena
end MarkupSearch
