/-
# A loaded page is its document numbered in pre-order

The tree of a document (`Import.tree`) takes in what lies in templates after their children, and
leaves out texts of white space only when the loader does. Taking a document over works off a stack
on which pending siblings of all levels wait, and links each node to its parent as it comes. What
the stack holds of one parent therefore comes to a whole: it adds the tops of the trees to the
parent's children, and the nodes of the trees, numbered on from the size of the arena, at the end
(`outcome_place`). So the arena holds the tree in pre-order: each node tells what stands at its
place, and the links are the numbers of the places in the tree (`loadWith_numbers`).

Key definitions: `Import.tree`, `Arena.plant`, `Node.Tells`, `Arena.Numbers`.
Key theorems: `Import.outcome_place`, `Loader.loadWith_numbers`.
-/
import MarkupSearch.Loader
import MarkupSearch.Proofs.Edits
import MarkupSearch.Proofs.Tree

namespace MarkupSearch
namespace Import

mutual
/-- The tree of a part of a document: what lies below the part is its children and then, for a
template, its contents. -/
def tree? (dropBlankText : Bool) : Markup → Option Tree
  | .part label children contents =>
    if dropBlankText && label.isBlankText then none
    else some (.node label (forest dropBlankText children ++ forest dropBlankText contents))

/-- The trees of the parts that are not left out. -/
def forest (dropBlankText : Bool) : List Markup → List Tree
  | [] => []
  | m :: ms =>
    match tree? dropBlankText m with
    | some t => t :: forest dropBlankText ms
    | none => forest dropBlankText ms
end

/-- The tree of a document. -/
def tree (dropBlankText : Bool) (d : Document) : Tree :=
  .node .document (forest dropBlankText d.children)

variable {dropBlankText : Bool}

theorem forest_append : ∀ ms ns : List Markup,
    forest dropBlankText (ms ++ ns) = forest dropBlankText ms ++ forest dropBlankText ns
  | [], _ => rfl
  | m :: ms, ns => by
    rw [List.cons_append, forest, forest]
    cases tree? dropBlankText m with
    | none => exact forest_append ms ns
    | some t => exact congrArg (t :: ·) (forest_append ms ns)

theorem tree?_eq (m : Markup) :
    tree? dropBlankText m =
      if isLeftOut dropBlankText m then none
      else some (.node m.label (forest dropBlankText m.inner)) := by
  cases m
  rw [tree?, Markup.inner, forest_append]
  rfl

end Import

/-! ### Planting trees -/

theorem modify_append_left {α : Type} {l l' : List α} {i : Nat} (f : α → α) (h : i < l.length) :
    (l ++ l').modify i f = l.modify i f ++ l' := by
  induction l generalizing i with
  | nil => simp at h
  | cons x l ih =>
    cases i with
    | zero => rfl
    | succ i =>
      rw [List.cons_append, List.modify_succ_cons, ih (by simpa using h), List.modify_succ_cons,
        List.cons_append]

/-- The value that stands last is changed. -/
theorem modify_concat {α : Type} {l : List α} {i : Nat} (h : l.length = i) (x : α) (f : α → α) :
    (l ++ [x]).modify i f = l ++ [f x] := by
  subst h
  induction l with
  | nil => rfl
  | cons y l ih => rw [List.cons_append, List.length_cons, List.modify_succ_cons, ih]; rfl

namespace Arena

variable {a : Arena}

/-- The nodes with trees more below one of them: their tops are its last children, and their nodes
stand at the end. -/
def plant (a : Arena) (p : NodeId) (ts : List Tree) : Arena where
  nodes := (a.nodes.toList.modify p.toNat (fun n =>
    { n with children := n.children ++ Tree.tops a.size ts }) ++
      Tree.nodesAll (some p) a.size ts).toArray
  root := a.root

theorem ext_toList {a b : Arena} (hn : a.nodes.toList = b.nodes.toList) (hr : a.root = b.root) :
    a = b := by
  cases a
  cases b
  simp only [mk.injEq]
  exact ⟨Array.toList_inj.mp hn, hr⟩

theorem size_eq_length (a : Arena) : a.size = a.nodes.toList.length := by
  simp [size]

theorem InRange.lt_length {id : NodeId} (h : a.InRange id) : id.toNat < a.nodes.toList.length := by
  rw [← size_eq_length]
  exact h

theorem length_modify (i : Nat) (f : Node → Node) :
    (a.nodes.toList.modify i f).length = a.size := by
  rw [List.length_modify, size_eq_length]

@[simp] theorem size_plant (p : NodeId) (ts : List Tree) :
    (a.plant p ts).size = a.size + Tree.sizeAll ts := by
  simp [plant, size, Tree.length_nodesAll]

theorem plant_nil (p : NodeId) : a.plant p [] = a := by
  refine ext_toList ?_ rfl
  simp only [plant, Tree.tops, Tree.nodesAll, List.append_nil, List.toList_toArray]
  exact List.modify_id ..

theorem inRange_plant {p c : NodeId} {ts : List Tree} (h : a.InRange c) :
    (a.plant p ts).InRange c := by
  rw [InRange, size_plant]
  exact Nat.lt_add_right _ h

theorem toList_plant (p : NodeId) (ts : List Tree) :
    (a.plant p ts).nodes.toList =
      (a.nodes.toList.modify p.toNat fun n =>
        { n with children := n.children ++ Tree.tops a.size ts }) ++
        Tree.nodesAll (some p) a.size ts := rfl

/-- Trees that are planted below one node one after the other are planted together. -/
theorem plant_append {p : NodeId} (hp : a.InRange p) (ts us : List Tree) :
    (a.plant p ts).plant p us = a.plant p (ts ++ us) := by
  have hp' : p.toNat < (a.nodes.toList.modify p.toNat fun n =>
      { n with children := n.children ++ Tree.tops a.size ts }).length := by
    rw [length_modify]
    exact hp
  refine ext_toList ?_ rfl
  rw [toList_plant, toList_plant, toList_plant, size_plant, modify_append_left _ hp',
    List.modify_modify_eq, List.append_assoc, Tree.tops_append, Tree.nodesAll_append]
  simp only [Function.comp_def, List.append_assoc]

/-- The node that stands last is changed. -/
theorem modify_plant_leaf (p : NodeId) (label : Label) (f : Node → Node) :
    (a.plant p [.node label []]).nodes.toList.modify a.size f =
      (a.nodes.toList.modify p.toNat fun n =>
        { n with children := n.children ++ [a.size.toUInt32] }) ++
        [f { label.node with id := a.size.toUInt32, parent := some p, children := [] }] :=
  modify_concat (length_modify _ _) _ f

/-- A node without children is planted, and then what lies below it. -/
theorem plant_below {p : NodeId} (hsize : a.size < UInt32.size) (label : Label) (ts : List Tree) :
    (a.plant p [.node label []]).plant a.size.toUInt32 ts = a.plant p [.node label ts] := by
  refine ext_toList ?_ rfl
  rw [toList_plant, toNat_size hsize, modify_plant_leaf, size_plant, toList_plant]
  simp only [Tree.nodesAll, Tree.nodes, Tree.tops, Tree.sizeAll, Tree.size, List.append_nil,
    List.append_assoc, List.nil_append, List.cons_append, Nat.add_zero]

theorem children_node (label : Label) : label.node.children = [] := by
  cases label <;> rfl

/-- To put a node under another is to plant it there. -/
theorem linked_push {p : NodeId} (hp : a.InRange p) (hsize : a.size < UInt32.size) (label : Label) :
    (a.push label.node).linked p a.size.toUInt32 = a.plant p [.node label []] := by
  refine ext_toList ?_ rfl
  simp only [linked, modify, push, Array.toList_modify, Array.toList_push, toNat_size hsize]
  rw [modify_append_left _ hp.lt_length, modify_concat (length_modify _ _), toList_plant]
  simp only [Tree.nodesAll, Tree.nodes, Tree.tops, children_node]
  rfl

end Arena

/-! ### Taking a document over -/

namespace Import

variable {dropBlankText : Bool}

/-- **What waits on the stack for one parent is planted below it**, and then the rest of the stack
is worked off. -/
theorem outcome_place : ∀ (ms : List Markup) (p : NodeId) (waiting : List (Markup × NodeId))
    (a : Arena), a.InRange p → a.size + Tree.sizeAll (forest dropBlankText ms) ≤ UInt32.size →
    (place dropBlankText (ms.map (·, p) ++ waiting)).outcome a =
      (place dropBlankText waiting).outcome (a.plant p (forest dropBlankText ms))
  | [], p, waiting, a, _, _ => by rw [forest, Arena.plant_nil]; rfl
  | m :: ms, p, waiting, a, hp, hsize => by
    have hm := Markup.size_eq m
    rw [List.map_cons, List.cons_append, place, forest, tree?_eq]
    rw [forest, tree?_eq] at hsize
    split
    · next hl =>
      rw [if_pos hl] at hsize
      exact outcome_place ms p waiting a hp hsize
    · next hl =>
      simp only [if_neg hl, Tree.sizeAll, Tree.size] at hsize
      have ha : a.size < UInt32.size := by omega
      -- the node itself, then what lies below it, then its later siblings
      rw [Edit.outcome_bind, Edit.outcome_insertUnder hp, Arena.linked_push hp ha]
      simp only
      rw [outcome_place m.inner _ _ _ ?_ ?_, outcome_place ms p waiting _ ?_ ?_,
        Arena.plant_below ha, Arena.plant_append hp, List.singleton_append]
      · exact Arena.inRange_plant (Arena.inRange_plant hp)
      · simp only [Arena.size_plant, Tree.sizeAll, Tree.size]
        omega
      · rw [Arena.InRange, Arena.toNat_size ha, Arena.size_plant, Tree.sizeAll, Tree.size]
        omega
      · simp only [Arena.size_plant, Tree.sizeAll, Tree.size]
        omega
termination_by ms => Markup.sizeAll ms
decreasing_by all_goals simp only [Markup.sizeAll]; omega

theorem outcome_document (d : Document) (hsize : (tree dropBlankText d).size ≤ UInt32.size) :
    (document dropBlankText d).outcome .empty =
      (.ok 0, ⟨((tree dropBlankText d).nodes none 0).toArray, none⟩) := by
  rw [tree, Tree.size] at hsize
  have hplace := @outcome_place dropBlankText d.children 0 []
    (Arena.empty.push .document) (by decide) (by rw [Arena.size_push]; exact hsize)
  have hid : Arena.empty.size.toUInt32 = 0 := rfl
  rw [List.append_nil] at hplace
  rw [document, Edit.outcome_bind, Edit.outcome_insert, hid]
  simp only
  rw [Edit.outcome_bind, hplace, place]
  rfl

end Import

/-! ### What a node tells -/

/-- The same value under the written name: the local name, after the prefix and a colon where there
is a prefix. -/
def Attribute.Writes (x : Attribute) (m : MarkupAttribute) : Prop :=
  x.value = m.value ∧
    ((m.space = none ∧ x.name = m.localName) ∨
      ∃ p, m.space = some p ∧ x.name = p ++ ":" ++ m.localName)

/-- What a part of a document is can be told from its node: from the kind, from the name and the
value and, for an element, from the attributes in the order of the markup. -/
def Node.Tells (n : Node) : Label → Prop
  | .document => n.kind = .document ∧ n.name = "#document" ∧ n.value = "" ∧ n.attributes = []
  | .doctype name => n.kind = .doctype ∧ n.name = name ∧ n.value = "" ∧ n.attributes = []
  | .text s => n.kind = .text ∧ n.name = "#text" ∧ n.value = s ∧ n.attributes = []
  | .comment s => n.kind = .comment ∧ n.name = "#comment" ∧ n.value = s ∧ n.attributes = []
  | .instruction target data =>
    n.kind = .instruction ∧ n.name = target ∧ n.value = data ∧ n.attributes = []
  | .element name attributes =>
    n.kind = .element ∧ n.name = name ∧ n.value = "" ∧
      List.Forall₂ Attribute.Writes n.attributes attributes

theorem MarkupAttribute.writes (m : MarkupAttribute) : Attribute.Writes ⟨m.name, m.value⟩ m := by
  refine ⟨rfl, ?_⟩
  rw [MarkupAttribute.name]
  cases m.space with
  | none => exact .inl ⟨rfl, rfl⟩
  | some p => exact .inr ⟨p, rfl, rfl⟩

/-- The links of a node do not matter to what it tells. -/
theorem Node.Tells.of_label {n : Node} {label : Label} (hkind : n.kind = label.node.kind)
    (hname : n.name = label.node.name) (hvalue : n.value = label.node.value)
    (hattributes : n.attributes = label.node.attributes) : n.Tells label := by
  cases label with
  | element name attributes =>
    refine ⟨hkind, hname, hvalue, ?_⟩
    rw [hattributes]
    exact List.forall₂_map_left_iff.mpr (List.forall₂_same.mpr fun m _ => m.writes)
  | _ => exact ⟨hkind, hname, hvalue, hattributes⟩

namespace Arena

/-- The arena is a tree numbered in pre-order. The node at a place of the tree has the number of
the place as its id, the label of the place as its data, the number of the place above as its
parent and the numbers of the places right below, in order, as its children. -/
structure Numbers (a : Arena) (t : Tree) : Prop where
  root : a.root = some 0
  size : a.size = t.size
  id : ∀ (i : Nat) (n : Node), a.nodes[i]? = some n → n.id.toNat = i
  node : ∀ path u, t.at? path = some u → a.nodes[t.number path]? = some
    { u.label.node with
      id := (t.number path).toUInt32
      parent := if path = [] then none else some (t.number path.dropLast).toUInt32
      children := (List.range u.inner.length).map fun i => (t.number (path ++ [i])).toUInt32 }
  /-- There are no other nodes. -/
  place : ∀ i < a.size, ∃ path u, t.at? path = some u ∧ t.number path = i

theorem numbers_nodes {t : Tree} (hsize : t.size ≤ UInt32.size) :
    Numbers ⟨(t.nodes none 0).toArray, some 0⟩ t := by
  have hlen : (t.nodes none 0).toArray.size = t.size := by
    rw [List.size_toArray, Tree.length_nodes]
  have node : ∀ path u, t.at? path = some u → (t.nodes none 0).toArray[t.number path]? = some
      { u.label.node with
        id := (t.number path).toUInt32
        parent := if path = [] then none else some (t.number path.dropLast).toUInt32
        children := (List.range u.inner.length).map fun i =>
          (t.number (path ++ [i])).toUInt32 } := by
    intro path u hu
    rw [List.getElem?_toArray, Tree.getElem?_nodes none 0 hu]
    simp only [Nat.zero_add]
  refine ⟨rfl, hlen, fun i n hn => ?_, node, fun i hi => t.exists_number_eq i (hlen ▸ hi)⟩
  have hi : i < t.size := by
    rw [← hlen]
    exact (Array.getElem?_eq_some_iff.mp hn).1
  obtain ⟨path, u, hu, rfl⟩ := t.exists_number_eq i hi
  rw [node path u hu, Option.some.injEq] at hn
  rw [← hn, Nat.toUInt32, UInt32.toNat_ofNat_of_lt' (hi.trans_le hsize)]

end Arena

namespace Loader

/-- Where a document has been put in place of what there was: its tree in pre-order. -/
theorem outcome_replace (dropBlankText : Bool) (d : Document) (a : Arena)
    (hsize : (Import.tree dropBlankText d).size ≤ UInt32.size) :
    (replace dropBlankText d).outcome a =
      (.ok 0, ⟨((Import.tree dropBlankText d).nodes none 0).toArray, some 0⟩) := by
  rw [replace, Edit.outcome_bind, Edit.outcome_clear]
  simp only
  rw [Edit.outcome_bind, Import.outcome_document d hsize]
  simp only
  rw [Edit.outcome_bind, Edit.outcome_setRoot]
  · rfl
  · rw [Arena.InRange, Arena.size_eq_length, List.toList_toArray, Tree.length_nodes]
    exact Tree.size_pos _

/-- What loading a source that can be read comes to. -/
theorem loadWith_of_readAll (l : Loader) (read : List (List UInt8) → Document) {s : Source}
    {blocks : List (List UInt8)} (hread : s.readAll = .ok blocks)
    (hsize : (Import.tree l.dropBlankText (read blocks)).size ≤ UInt32.size) :
    l.loadWith read s = (.ok 0, { l with arena :=
      ⟨((Import.tree l.dropBlankText (read blocks)).nodes none 0).toArray, some 0⟩ }) := by
  rw [loadWith, hread]
  simp only [outcome_replace l.dropBlankText (read blocks) l.arena hsize]

/-- **A page that could be read is its document numbered in pre-order**, whatever reads the document
and whatever page was there before. The node at each place tells what stands there. -/
theorem loadWith_numbers (l : Loader) (read : List (List UInt8) → Document) (s : Source)
    (blocks : List (List UInt8)) (hread : s.readAll = .ok blocks)
    (hsize : (Import.tree l.dropBlankText (read blocks)).size ≤ UInt32.size) :
    ∃ a : Arena, l.loadWith read s = (.ok 0, { l with arena := a }) ∧
      a.Numbers (Import.tree l.dropBlankText (read blocks)) ∧
      (∀ path u, (Import.tree l.dropBlankText (read blocks)).at? path = some u →
        ∃ n, a.nodes[(Import.tree l.dropBlankText (read blocks)).number path]? = some n ∧
          n.Tells u.label) ∧
      ∃ n, a.get? 0 = some n ∧ n.kind = .document := by
  have numbers := Arena.numbers_nodes hsize
  refine ⟨⟨((Import.tree l.dropBlankText (read blocks)).nodes none 0).toArray, some 0⟩,
    loadWith_of_readAll l read hread hsize, numbers, fun path u hu => ⟨_, numbers.node path u hu, ?_⟩,
    _, numbers.node [] _ rfl, rfl⟩
  exact .of_label rfl rfl rfl rfl

/-- A template with contents, a blank text among them, before a comment; one of the attributes has a
prefix. -/
def templatePage : Document where
  children := [.part (.element "template" [])
    [] [.part (.text " ") [] [],
      .part (.element "svg" [⟨none, "id", "s"⟩, ⟨some "xlink", "href", "#a"⟩])
        [.part (.text "x") [] []] []],
    .part (.comment "c") [] []]

theorem loadWith_numbers_templatePage :
    Source.readAll [.interrupted, .octets [0x61]] = .ok [[0x61]] ∧
      (Import.tree true templatePage).size ≤ UInt32.size ∧
      ∃ a : Arena, (Loader.new true).loadWith (fun _ => templatePage)
          [.interrupted, .octets [0x61]] = (.ok 0, ⟨true, a⟩) ∧ a.size = 5 ∧
        (∃ n, a.get? 1 = some n ∧ n.name = "template" ∧ n.children = [2] ∧ n.parent = some 0) ∧
        (∃ n, a.get? 2 = some n ∧ n.attributes = [⟨"id", "s"⟩, ⟨"xlink:href", "#a"⟩] ∧
          n.Tells (.element "svg" [⟨none, "id", "s"⟩, ⟨some "xlink", "href", "#a"⟩])) ∧
        ∃ n, a.get? 4 = some n ∧ n.value = "c" ∧ n.parent = some 0 := by
  have hread : Source.readAll [.interrupted, .octets [0x61]] = .ok [[0x61]] := by decide
  have hsize : (Import.tree true templatePage).size ≤ UInt32.size := by decide
  obtain ⟨a, hload, numbers, tells, -⟩ := loadWith_numbers (Loader.new true)
    (fun _ => templatePage) [.interrupted, .octets [0x61]] [[0x61]] hread hsize
  obtain ⟨n, hn, data⟩ := tells [0, 0] _ rfl
  have hsvg := numbers.node [0, 0] _ rfl
  rw [hn, Option.some.injEq] at hsvg
  refine ⟨hread, hsize, a, hload, numbers.size, ⟨_, numbers.node [0] _ rfl, by decide⟩,
    ⟨n, hn, ?_, data⟩, _, numbers.node [1] _ rfl, by decide⟩
  rw [hsvg]
  decide

end Loader
end MarkupSearch
