/-
# A page without its blank texts

A loader may leave out texts of white space only. When texts have nothing below them, the page that
it loads is the page that a loader without this setting loads, thinned of these texts
(`Arena.thinned_ofTree`): while a document is numbered, the number that comes next on the thinner
page is the number of the nodes so far that stay (`Arena.Thins`). What is left out are leaves, so
every selector leads to what remains of where it led to (`Loader.loadWith_dropBlankText`).

Key definitions: `Node.isInked`, `Markup.textsAreLeaves`, `Arena.Thins`, `Arena.ofTree`.
Key theorems: `Arena.thins_forest`, `Arena.thinned_ofTree`, `Loader.loadWith_dropBlankText`.
-/
import MarkupSearch.Proofs.Page
import MarkupSearch.Proofs.Thinning

namespace MarkupSearch

/-- Whether a node is a text of white space only. -/
def Node.isBlankText (n : Node) : Bool := n.isText && Text.allBlank n.value

/-- Whether a node is anything else. -/
def Node.isInked (n : Node) : Bool := !n.isBlankText

namespace Label

theorem isText_of_isBlankText {label : Label} (h : label.isBlankText = true) :
    label.isText = true := by
  cases label with
  | text s => rfl
  | _ => simp [isBlankText] at h

theorem isInked_node (label : Label) : label.node.isInked = !label.isBlankText := by
  cases label <;> rfl

end Label

namespace Markup

mutual
/-- Whether texts have nothing below them, from this part down. -/
def textsAreLeaves : Markup → Bool
  | part label children contents =>
    (!label.isText || (children.isEmpty && contents.isEmpty)) &&
      (textsAreLeavesAll children && textsAreLeavesAll contents)

/-- Whether texts have nothing below them in any of these parts. -/
def textsAreLeavesAll : List Markup → Bool
  | [] => true
  | m :: ms => textsAreLeaves m && textsAreLeavesAll ms
end

theorem textsAreLeavesAll_cons {m : Markup} {ms : List Markup} :
    textsAreLeavesAll (m :: ms) = true ↔ m.textsAreLeaves = true ∧ textsAreLeavesAll ms = true := by
  rw [textsAreLeavesAll, Bool.and_eq_true]

theorem textsAreLeavesAll_append : ∀ {ms ns : List Markup}, textsAreLeavesAll ms = true →
    textsAreLeavesAll ns = true → textsAreLeavesAll (ms ++ ns) = true
  | [], _, _, hns => hns
  | m :: ms, ns, hms, hns => by
    obtain ⟨hm, hms⟩ := textsAreLeavesAll_cons.mp hms
    exact textsAreLeavesAll_cons.mpr ⟨hm, textsAreLeavesAll_append hms hns⟩

theorem textsAreLeavesAll_inner {m : Markup} (h : m.textsAreLeaves = true) :
    textsAreLeavesAll m.inner = true := by
  cases m with
  | part label children contents =>
    rw [textsAreLeaves, Bool.and_eq_true, Bool.and_eq_true] at h
    exact textsAreLeavesAll_append h.2.1 h.2.2

theorem inner_eq_nil {m : Markup} (h : m.textsAreLeaves = true)
    (hblank : m.label.isBlankText = true) : m.inner = [] := by
  cases m with
  | part label children contents =>
    have htext : label.isText = true := Label.isText_of_isBlankText hblank
    rw [textsAreLeaves, htext, Bool.not_true, Bool.false_or, Bool.and_eq_true,
      Bool.and_eq_true] at h
    rw [inner, List.isEmpty_iff.mp h.1.1, List.isEmpty_iff.mp h.1.2, List.append_nil]

end Markup

namespace Import

/-- A tree of a document has its label over the trees of what is right below. -/
theorem forest_false_cons (m : Markup) (ms : List Markup) :
    forest false (m :: ms) = .node m.label (forest false m.inner) :: forest false ms := by
  rw [forest, tree?_eq]
  rfl

theorem forest_true_cons (m : Markup) (ms : List Markup) :
    forest true (m :: ms) =
      if m.label.isBlankText then forest true ms
      else .node m.label (forest true m.inner) :: forest true ms := by
  rw [forest, tree?_eq, isLeftOut, Bool.true_and]
  by_cases hblank : m.label.isBlankText = true
  · rw [if_pos hblank, if_pos hblank]
  · rw [if_neg hblank, if_neg hblank]

end Import

/-! ### Numbers of what stays -/

/-- The node at the top of a tree that is numbered from a number on. -/
def Tree.topNode (parent : Option NodeId) (k : Nat) (label : Label) (below : List Tree) : Node :=
  { label.node with id := k.toUInt32, parent := parent, children := tops (k + 1) below }

theorem Tree.nodes_node (parent : Option NodeId) (k : Nat) (label : Label) (below : List Tree) :
    (node label below).nodes parent k =
      topNode parent k label below :: nodesAll (some k.toUInt32) (k + 1) below := rfl

theorem Tree.isInked_topNode (parent : Option NodeId) (k : Nat) (label : Label)
    (below : List Tree) : (topNode parent k label below).isInked = !label.isBlankText :=
  label.isInked_node

namespace Arena

open Node (isInked)

section Standing

variable {a : Arena} {before after : List Node} {n : Node}

theorem toNat_length (h : a.nodes.toList = before ++ n :: after) (hsize : a.size ≤ UInt32.size) :
    before.length.toUInt32.toNat = before.length := by
  have hlen : a.size = before.length + (after.length + 1) := by
    rw [size_eq_length, h, List.length_append, List.length_cons]
  exact UInt32.toNat_ofNat_of_lt' (by omega)

theorem passes_length (h : a.nodes.toList = before ++ n :: after) (hsize : a.size ≤ UInt32.size) :
    a.passes isInked before.length.toUInt32 = n.isInked := by
  have hget : a.get? before.length.toUInt32 = some n := by
    rw [get?, toNat_length h hsize, ← Array.getElem?_toList, h,
      List.getElem?_append_right (Nat.le_refl _), Nat.sub_self, List.getElem?_cons_zero]
  rw [passes, hget, Option.any_some]

/-- The new id of a node is the number of those before it that stay. -/
theorem newId_length (h : a.nodes.toList = before ++ n :: after) (hsize : a.size ≤ UInt32.size) :
    a.newId isInked before.length.toUInt32 = (before.countP isInked).toUInt32 := by
  rw [newId, toNat_length h hsize, rank, h, List.take_left]

theorem remaining_cons_of_inked (h : a.nodes.toList = before ++ n :: after)
    (hsize : a.size ≤ UInt32.size) (hn : n.isInked = true) (ids : List NodeId) :
    a.remaining isInked (before.length.toUInt32 :: ids) =
      (before.countP isInked).toUInt32 :: a.remaining isInked ids := by
  have hpass : a.passes isInked before.length.toUInt32 = true := by
    rw [passes_length h hsize, hn]
  rw [remaining, List.filter_cons_of_pos hpass, List.map_cons, newId_length h hsize, remaining]

theorem remaining_cons_of_blank (h : a.nodes.toList = before ++ n :: after)
    (hsize : a.size ≤ UInt32.size) (hn : n.isInked = false) (ids : List NodeId) :
    a.remaining isInked (before.length.toUInt32 :: ids) = a.remaining isInked ids := by
  have hpass : a.passes isInked before.length.toUInt32 = false := by
    rw [passes_length h hsize, hn]
  rw [remaining, List.filter_cons_of_neg (by simp [hpass]), remaining]

end Standing

/-- Trees numbered from where their nodes stand in an arena, behind `before`, thin out to other
trees numbered from the number of the nodes before that stay: the nodes that stay, with their new
links, are the nodes of those, and the tops that stay are their tops. -/
structure Thins (a : Arena) (before : List Node) (parent : Option NodeId) (ts us : List Tree) :
    Prop where
  nodes : Tree.nodesAll (parent.map (a.newId isInked)) (before.countP isInked) us =
    ((Tree.nodesAll parent before.length ts).filter isInked).map (a.relinked isInked)
  tops : Tree.tops (before.countP isInked) us = a.remaining isInked (Tree.tops before.length ts)

namespace Thins

variable {a : Arena} {before after : List Node} {parent : Option NodeId} {label : Label}
  {below below' ts us : List Tree}

theorem nil : a.Thins before parent [] [] := ⟨rfl, rfl⟩

/-- A blank text without anything below it is passed over, and the next number stays the same. -/
theorem skip (hsize : a.size ≤ UInt32.size) (hblank : label.isBlankText = true)
    (hnodes : a.nodes.toList = before ++ Tree.topNode parent before.length label [] :: after)
    (rest : a.Thins (before ++ [Tree.topNode parent before.length label []]) parent ts us) :
    a.Thins before parent (.node label [] :: ts) us := by
  have hout : (Tree.topNode parent before.length label []).isInked = false := by
    rw [Tree.isInked_topNode, hblank, Bool.not_true]
  have hneg : ¬ (Tree.topNode parent before.length label []).isInked = true := by simp [hout]
  obtain ⟨hrest, htops⟩ := rest
  rw [List.countP_append, List.countP_singleton, if_neg hneg, Nat.add_zero, List.length_append,
    List.length_singleton] at hrest htops
  constructor
  · show _ = ((Tree.topNode parent before.length label [] ::
      Tree.nodesAll parent (before.length + 1) ts).filter isInked).map (a.relinked isInked)
    rw [List.filter_cons_of_neg hneg, hrest]
  · show _ = a.remaining isInked (before.length.toUInt32 :: Tree.tops (before.length + 1) ts)
    rw [remaining_cons_of_blank hnodes hsize hout, htops]

/-- Anything else stays, with what stays below it. -/
theorem keep (hsize : a.size ≤ UInt32.size) (hinked : label.isBlankText = false)
    (hnodes : a.nodes.toList = before ++ Tree.topNode parent before.length label below :: after)
    (inner : a.Thins (before ++ [Tree.topNode parent before.length label below])
      (some before.length.toUInt32) below below')
    (rest : a.Thins (before ++ (Tree.node label below).nodes parent before.length) parent ts us) :
    a.Thins before parent (.node label below :: ts) (.node label below' :: us) := by
  have hin : (Tree.topNode parent before.length label below).isInked = true := by
    rw [Tree.isInked_topNode, hinked, Bool.not_false]
  obtain ⟨hinner, htops⟩ := inner
  obtain ⟨hrest, htops'⟩ := rest
  rw [List.countP_append, List.countP_singleton, if_pos hin, List.length_append,
    List.length_singleton] at hinner htops
  rw [Option.map_some, newId_length hnodes hsize] at hinner
  -- the top with its new links, and so the whole tree
  have htop : a.relinked isInked (Tree.topNode parent before.length label below) =
      Tree.topNode (parent.map (a.newId isInked)) (before.countP isInked) label below' := by
    unfold relinked Tree.topNode
    simp only [newId_length hnodes hsize, htops, remaining]
  have htree : (Tree.node label below').nodes (parent.map (a.newId isInked))
      (before.countP isInked) =
      (((Tree.node label below).nodes parent before.length).filter isInked).map
        (a.relinked isInked) := by
    rw [Tree.nodes_node, Tree.nodes_node, List.filter_cons_of_pos hin, List.map_cons, htop, hinner]
  have hcount : (before ++ (Tree.node label below).nodes parent before.length).countP isInked =
      before.countP isInked + (Tree.node label below').size := by
    have hlen := congrArg List.length htree
    rw [Tree.length_nodes, List.length_map, ← List.countP_eq_length_filter] at hlen
    rw [List.countP_append, hlen]
  rw [hcount, List.length_append, Tree.length_nodes] at hrest htops'
  constructor
  · rw [Tree.nodesAll, Tree.nodesAll, List.filter_append, List.map_append, htree, hrest]
  · rw [Tree.tops, Tree.tops, remaining_cons_of_inked hnodes hsize hin, htops']

end Thins

variable {a : Arena}

/-- **The trees of a document thin out to its trees without blank texts.** -/
theorem thins_forest (hsize : a.size ≤ UInt32.size) : ∀ (ms : List Markup)
    (parent : Option NodeId) (before after : List Node), Markup.textsAreLeavesAll ms = true →
    a.nodes.toList =
      before ++ (Tree.nodesAll parent before.length (Import.forest false ms) ++ after) →
    a.Thins before parent (Import.forest false ms) (Import.forest true ms)
  | [], _, _, _, _, _ => .nil
  | m :: ms, parent, before, after, hleaves, hnodes => by
    have hm := Markup.size_eq m
    obtain ⟨hleaf, hleaves⟩ := Markup.textsAreLeavesAll_cons.mp hleaves
    rw [Import.forest_false_cons, Tree.nodesAll] at hnodes
    rw [Import.forest_false_cons, Import.forest_true_cons]
    have rest := thins_forest hsize ms parent
      (before ++ (Tree.node m.label (Import.forest false m.inner)).nodes parent before.length) after
      hleaves (by
        rw [hnodes, List.length_append, Tree.length_nodes]
        simp only [List.append_assoc])
    rw [Tree.nodes_node, List.cons_append, List.cons_append] at hnodes
    by_cases hblank : m.label.isBlankText = true
    · have hnone : m.inner = [] := Markup.inner_eq_nil hleaf hblank
      rw [hnone] at hnodes rest
      rw [if_pos hblank, hnone]
      exact Thins.skip hsize hblank hnodes rest
    · have inner := thins_forest hsize m.inner (some before.length.toUInt32)
        (before ++ [Tree.topNode parent before.length m.label (Import.forest false m.inner)]) _
        (Markup.textsAreLeavesAll_inner hleaf) (by
          rw [hnodes, List.length_append, List.length_singleton, List.append_assoc,
            List.append_assoc]
          rfl)
      rw [if_neg hblank]
      exact Thins.keep hsize (by simpa using hblank) hnodes inner rest
termination_by ms => Markup.sizeAll ms
decreasing_by all_goals simp only [Markup.sizeAll]; omega

/-! ### The page without blank texts -/

/-- The page of a tree: its nodes in document order, with the first as the root. -/
def ofTree (t : Tree) : Arena := ⟨(t.nodes none 0).toArray, some 0⟩

theorem size_ofTree (t : Tree) : (ofTree t).size = t.size := by
  rw [size, ofTree, List.size_toArray, Tree.length_nodes]

theorem toList_ofTree (d : Document) (dropBlankText : Bool) :
    (ofTree (Import.tree dropBlankText d)).nodes.toList =
      Tree.topNode none 0 .document (Import.forest dropBlankText d.children) ::
        Tree.nodesAll (some 0) 1 (Import.forest dropBlankText d.children) := rfl

variable {d : Document}

/-- **The page with blank texts, thinned of them, is the page without.** -/
theorem thinned_ofTree (hleaves : Markup.textsAreLeavesAll d.children = true)
    (hsize : (Import.tree false d).size ≤ UInt32.size) :
    (ofTree (Import.tree false d)).thinned isInked = ofTree (Import.tree true d) := by
  have hsize' : (ofTree (Import.tree false d)).size ≤ UInt32.size := by rwa [size_ofTree]
  have hnodes := toList_ofTree d false
  have root : (ofTree (Import.tree false d)).newId isInked 0 = 0 := rfl
  obtain ⟨nodes, tops⟩ := thins_forest hsize' d.children (some 0)
    [Tree.topNode none 0 .document (Import.forest false d.children)] [] hleaves
    (by rw [hnodes, List.append_nil]; rfl)
  have one : [Tree.topNode none 0 .document (Import.forest false d.children)].countP isInked = 1 :=
    rfl
  rw [one, List.length_singleton] at nodes tops
  rw [Option.map_some, root] at nodes
  have top : (ofTree (Import.tree false d)).relinked isInked
      (Tree.topNode none 0 .document (Import.forest false d.children)) =
      Tree.topNode none 0 .document (Import.forest true d.children) := by
    unfold relinked Tree.topNode
    simp only [tops, remaining]
    rfl
  refine ext_toList ?_ rfl
  rw [thinned, List.toList_toArray, hnodes, List.filter_cons_of_pos rfl, List.map_cons, top,
    ← nodes, toList_ofTree]

/-- Where texts have nothing below them, blank texts list no children. -/
theorem children_eq_nil_of_mem_forest : ∀ (ms : List Markup) (parent : Option NodeId) (k : Nat),
    Markup.textsAreLeavesAll ms = true →
    ∀ n ∈ Tree.nodesAll parent k (Import.forest false ms), n.isInked = false → n.children = []
  | [], _, _, _, _, hn, _ => absurd hn List.not_mem_nil
  | m :: ms, parent, k, hleaves, n, hn, hblank => by
    have hm := Markup.size_eq m
    obtain ⟨hleaf, hleaves⟩ := Markup.textsAreLeavesAll_cons.mp hleaves
    rw [Import.forest_false_cons, Tree.nodesAll, Tree.nodes_node, List.cons_append, List.mem_cons,
      List.mem_append] at hn
    rcases hn with rfl | hn | hn
    · rw [Tree.isInked_topNode, Bool.not_eq_false'] at hblank
      rw [Markup.inner_eq_nil hleaf hblank]
      rfl
    · exact children_eq_nil_of_mem_forest m.inner _ _ (Markup.textsAreLeavesAll_inner hleaf) n hn
        hblank
    · exact children_eq_nil_of_mem_forest ms _ _ hleaves n hn hblank
termination_by ms => Markup.sizeAll ms
decreasing_by all_goals simp only [Markup.sizeAll]; omega

/-- So the blank texts of a page may be left out without disturbing searches. -/
theorem thinnable_ofTree (hleaves : Markup.textsAreLeavesAll d.children = true)
    (hsize : (Import.tree false d).size ≤ UInt32.size) :
    (ofTree (Import.tree false d)).Thinnable isInked where
  size := by rwa [size_ofTree]
  leaf id n hn hblank := by
    have hmem := List.mem_of_getElem? (getElem?_toList_of_get? hn)
    rw [toList_ofTree] at hmem
    rcases List.mem_cons.mp hmem with rfl | hmem
    · exact absurd hblank (by rw [Tree.isInked_topNode]; decide)
    · exact children_eq_nil_of_mem_forest d.children _ _ hleaves n hmem hblank
  acyclic := (numbers_nodes hsize).acyclic

theorem size_thinned_add_countP {a : Arena} :
    (a.thinned isInked).size + a.nodes.toList.countP Node.isBlankText = a.size := by
  have each : ∀ n : Node, decide (¬ n.isBlankText = true) = n.isInked := fun n => by
    rw [Node.isInked, decide_not, Bool.decide_eq_true]
  have parts := a.nodes.toList.length_eq_countP_add_countP Node.isBlankText
  simp only [each] at parts
  rw [size_thinned, size_eq_length, parts, Nat.add_comm]

/-- A node that lists others is not a blank text. -/
theorem Thinnable.passes_of_lists {a : Arena} (h : a.Thinnable isInked) {x c : NodeId}
    (hc : a.Lists x c) : a.passes isInked x = true := by
  by_contra hx
  rw [Lists, h.childIds_eq_nil (by simpa using hx)] at hc
  exact absurd hc List.not_mem_nil

end Arena

/-- **Leaving blank texts out leaves the rest as it was**, and what a selector leads to. One loader
keeps the blank texts of a document, in which no text has anything below it, and another leaves
them out. The ids of the nodes that are not blank texts then go over, in order and one to one, to
the ids of the thinner page. A node has there what it had, with its links carried over; and every
selector leads, from the document, to the ids that it led to without those of blank texts, carried
over. -/
theorem Loader.loadWith_dropBlankText (read : List (List UInt8) → Document) (s : Source)
    (blocks : List (List UInt8)) (before before' : Arena) (hread : s.readAll = .ok blocks)
    (hleaves : Markup.textsAreLeavesAll (read blocks).children = true)
    (hsize : (Import.tree false (read blocks)).size ≤ UInt32.size) :
    ∃ (K D : Arena) (f : NodeId → NodeId),
      (Loader.mk false before).loadWith read s = (.ok 0, ⟨false, K⟩) ∧
      (Loader.mk true before').loadWith read s = (.ok 0, ⟨true, D⟩) ∧
      (∀ x, K.passes Node.isInked x = true → D.InRange (f x)) ∧
      (∀ x y, K.passes Node.isInked x = true → K.passes Node.isInked y = true → x < y →
        f x < f y) ∧
      (∀ y, D.InRange y → ∃ x, K.passes Node.isInked x = true ∧ f x = y) ∧
      D.size + K.nodes.toList.countP Node.isBlankText = K.size ∧
      (∀ x n, K.get? x = some n → n.isInked = true →
        (∀ p, n.parent = some p → K.passes Node.isInked p = true) ∧
        D.get? (f x) = some
          { n with
            id := f x
            parent := n.parent.map f
            children := (n.children.filter (K.passes Node.isInked)).map f }) ∧
      ∀ selector, D.query (some 0) selector =
        ((K.query (some 0) selector).filter (K.passes Node.isInked)).map f := by
  have thinned := Arena.thinned_ofTree hleaves hsize
  have thinnable := Arena.thinnable_ofTree hleaves hsize
  have numbers := Arena.numbers_nodes hsize
  have hsize' : (Import.tree true (read blocks)).size ≤ UInt32.size := by
    rw [← Arena.size_ofTree, ← thinned]
    exact Arena.size_thinned_le.trans thinnable.size
  have root : (Arena.ofTree (Import.tree false (read blocks))).newId Node.isInked 0 = 0 := rfl
  have document : (Arena.ofTree (Import.tree false (read blocks))).passes Node.isInked 0 = true :=
    rfl
  refine ⟨Arena.ofTree (Import.tree false (read blocks)),
    Arena.ofTree (Import.tree true (read blocks)),
    (Arena.ofTree (Import.tree false (read blocks))).newId Node.isInked,
    (Loader.mk false before).loadWith_of_readAll read hread hsize,
    (Loader.mk true before').loadWith_of_readAll read hread hsize', ?_⟩
  rw [← thinned]
  refine ⟨fun x hx => Arena.inRange_newId thinnable.size hx,
    fun x y hx hy hxy => Arena.newId_lt_newId thinnable.size hx hy hxy,
    fun y hy => Arena.exists_newId_eq thinnable.size hy, Arena.size_thinned_add_countP,
    fun x n hn hinked => ⟨fun p hp => ?_, ?_⟩, fun selector => ?_⟩
  · have hparent : (Arena.ofTree (Import.tree false (read blocks))).parentId x = some p := by
      rw [Arena.parentId, hn, Option.bind_some, hp]
    exact thinnable.passes_of_lists ((numbers.forest.lists_iff p x).mpr hparent)
  · have hid : n.id = x := UInt32.toNat_inj.mp (numbers.id _ _ hn)
    rw [Arena.get?_thinned thinnable.size hn hinked, Arena.relinked, hid]
  · have leads := Arena.query_thinned thinnable document selector
    rwa [root] at leads

theorem Loader.loadWith_dropBlankText_templatePage :
    Source.readAll [.octets [0x61]] = .ok [[0x61]] ∧
      Markup.textsAreLeavesAll templatePage.children = true ∧
      (Import.tree false templatePage).size ≤ UInt32.size ∧
      ∃ (K D : Arena) (f : NodeId → NodeId),
        (Loader.mk false .empty).loadWith (fun _ => templatePage) [.octets [0x61]] =
          (.ok 0, ⟨false, K⟩) ∧
        (Loader.mk true .empty).loadWith (fun _ => templatePage) [.octets [0x61]] =
          (.ok 0, ⟨true, D⟩) ∧
        K.size = 6 ∧ D.size = 5 ∧ K.passes Node.isInked 2 = false ∧
        K.query (some 0) "template *" = [2, 4] ∧
        D.query (some 0) "template *" = [f 4] := by
  have hread : Source.readAll [.octets [0x61]] = .ok [[0x61]] := by decide
  have hleaves : Markup.textsAreLeavesAll templatePage.children = true := by decide +kernel
  have hsize : (Import.tree false templatePage).size ≤ UInt32.size := by decide
  obtain ⟨K, D, f, hK, hD, -, -, -, hcount, -, hquery⟩ :=
    Loader.loadWith_dropBlankText (fun _ => templatePage) [.octets [0x61]] [[0x61]] .empty .empty
      hread hleaves hsize
  have hload : K = ((Loader.mk false .empty).loadWith (fun _ => templatePage)
      [.octets [0x61]]).2.arena := by
    rw [hK]
  have found : K.query (some 0) "template *" = [2, 4] := by
    rw [hload]
    decide +kernel
  have size : K.size = 6 := by
    rw [hload]
    decide +kernel
  have blank : K.nodes.toList.countP Node.isBlankText = 1 := by
    rw [hload]
    decide +kernel
  have inked : [2, 4].filter (K.passes Node.isInked) = [4] := by
    rw [hload]
    decide +kernel
  have two : K.passes Node.isInked 2 = false := by
    rw [hload]
    decide +kernel
  refine ⟨hread, hleaves, hsize, K, D, f, hK, hD, size, by omega, two, found, ?_⟩
  rw [hquery, found, inked]
  rfl

end MarkupSearch
