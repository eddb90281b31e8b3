/-
# The text of a node is the text that a search finds

A walk whose visitor does not fail comes to its end exactly when all that can be reached is in
range, and then it has called the visitor with the nodes that a search for everything finds. The
text of a node is gathered on such a walk, so it is the data of the text nodes in document order,
without the white space at its two ends, and these are the nodes that a search for texts finds. On
a page document order is the order of the ids, so there it is enough to sort what the search finds.
Where an id out of range can be reached, the first one in document order is the failure.

Key definition: `Node.joinText`.
Key theorems: `Arena.visitAll_ok_iff`, `Arena.visitAll_of_find?`, `Arena.visitAll_gatherText`,
`Arena.Numbers.mergeSort_find`, `Arena.walks_agree_with_searches`.
-/
import MarkupSearch.Proofs.Calls
import MarkupSearch.Proofs.Page
import MarkupSearch.Proofs.SameNodes
import MarkupSearch.Proofs.Unfailing

namespace MarkupSearch

/-- The data of the text nodes among some nodes, one after the other. -/
def Node.joinText (ns : List Node) : String := String.join ((ns.filter Node.isText).map (·.value))

namespace Arena

variable {a : Arena} {id : NodeId}

/-! ### Visitors that do not fail -/

section Unfailing

variable {σ : Type} {visit : Visitor σ}

/-- Visits without a failure of the visitor come to their end exactly when all ids are in range. -/
theorem visitAll_ok_iff (hv : ∀ n s, (visit.at n s).1 = .ok ()) (ids : List NodeId) (s : σ) :
    (a.visitAll visit ids s).1 = .ok () ↔ ∀ x ∈ ids, a.InRange x := by
  constructor
  · intro hok x hx
    obtain ⟨called, hcalls⟩ := exists_calls a visit ids s
    have nodes : called.map some = ids.map a.get? := hcalls.of_ok hok
    have hget : a.get? x ∈ called.map some := by
      rw [nodes]
      exact List.mem_map_of_mem hx
    obtain ⟨n, -, hn⟩ := List.mem_map.mp hget
    exact inRange_of_get? hn.symm
  · exact fun hids => visitAll_ok hv hids s

/-- Where an id is out of range they fail at the first one that is. -/
theorem visitAll_of_find? (hv : ∀ n s, (visit.at n s).1 = .ok ()) {ids : List NodeId} {x : NodeId}
    (hx : ids.find? (fun id => !decide (a.InRange id)) = some x) (s : σ) :
    (a.visitAll visit ids s).1 = .error (.nodeNotFound x) := by
  obtain ⟨hmissing, before, rest, rfl, hbefore⟩ := List.find?_eq_some_iff_append.mp hx
  have hnone : a.get? x = none := by
    rw [get?_eq_none_iff]
    simpa using hmissing
  have hfirst : (a.visitAll visit before s).1 = .ok () :=
    visitAll_ok hv (fun y hy => by simpa using hbefore y hy) s
  rw [visitAll_append]
  rcases hr : a.visitAll visit before s with ⟨r, t⟩
  rw [hr] at hfirst
  have hr : r = .ok () := hfirst
  subst hr
  rw [goOn, visitAll, visitOne, hnone]
  rfl

theorem walk_ok_iff (h : a.AcyclicFrom id) (hv : ∀ n s, (visit.at n s).1 = .ok ()) (s : σ) :
    (a.walk id visit s).1 = .ok () ↔ ∀ x, Relation.ReflTransGen a.Lists id x → a.InRange x := by
  rw [walk_eq_visitAll h, visitAll_ok_iff hv]
  simp only [mem_preorder_iff]

/-- A walk to the end calls its visitor with the nodes of the ids in document order. -/
theorem walk_traced (h : a.AcyclicFrom id) (hv : ∀ n s, (visit.at n s).1 = .ok ())
    (hall : ∀ x, Relation.ReflTransGen a.Lists id x → a.InRange x) (s : σ) :
    ∃ t, a.walk id visit.traced ([], s) = (.ok (), a.nodesAt (a.preorder id h), t) := by
  have hok : (a.visitAll visit (a.preorder id h) s).1 = .ok () := by
    rw [← walk_eq_visitAll h]
    exact (walk_ok_iff h hv s).mpr hall
  obtain ⟨called, hcalls⟩ := exists_calls a visit (a.preorder id h) s
  refine ⟨(a.visitAll visit (a.preorder id h) s).2, ?_⟩
  rw [walk_eq_visitAll h, hcalls.traced, List.nil_append, hok, eq_nodesAt (hcalls.of_ok hok)]

end Unfailing

/-! ### Gathering text -/

theorem at_gatherText_ok (n : Node) (s : String) : (gatherText.at n s).1 = .ok () := by
  unfold Visitor.at gatherText
  split <;> rfl

/-- What is gathered is the data of the text nodes. -/
theorem visitAll_gatherText {ids : List NodeId} (hids : ∀ x ∈ ids, a.InRange x) (text : String) :
    a.visitAll gatherText ids text = (.ok (), text ++ Node.joinText (a.nodesAt ids)) := by
  induction ids generalizing text with
  | nil =>
    have empty : Node.joinText (a.nodesAt []) = "" := rfl
    rw [visitAll, empty, String.append_empty]
  | cons id ids ih =>
    obtain ⟨n, hn⟩ := inRange_iff.mp (hids id List.mem_cons_self)
    have rest := ih fun x hx => hids x (List.mem_cons_of_mem _ hx)
    rw [visitAll, visitOne, hn, nodesAt_cons hn]
    by_cases htext : n.isText = true
    · have first : gatherText.at n text = (.ok (), text ++ n.value) := by
        unfold Visitor.at gatherText
        rw [if_pos htext]
        rfl
      show goOn (gatherText.at n text) (a.visitAll gatherText ids) = _
      rw [first, goOn, rest, Node.joinText, Node.joinText, List.filter_cons_of_pos htext,
        List.map_cons, String.join_cons, String.append_assoc]
    · have first : gatherText.at n text = (.ok (), text) := by
        unfold Visitor.at gatherText
        rw [if_neg htext]
        rfl
      show goOn (gatherText.at n text) (a.visitAll gatherText ids) = _
      rw [first, goOn, rest, Node.joinText, Node.joinText, List.filter_cons_of_neg htext]

theorem textContent_ok_of_inRange (h : a.AcyclicFrom id)
    (hall : ∀ x, Relation.ReflTransGen a.Lists id x → a.InRange x) :
    a.textContent id = .ok (Text.trim (Node.joinText (a.nodesAt (a.preorder id h)))) := by
  have hids : ∀ x ∈ a.preorder id h, a.InRange x := fun x hx =>
    hall x ((mem_preorder_iff h).mp hx)
  rw [textContent, walk_eq_visitAll h, visitAll_gatherText hids, String.empty_append]

theorem textContent_of_find? (h : a.AcyclicFrom id) {x : NodeId}
    (hx : (a.preorder id h).find? (fun id => !decide (a.InRange id)) = some x) :
    a.textContent id = .error (.nodeNotFound x) := by
  have herror := visitAll_of_find? at_gatherText_ok hx ""
  rw [textContent, walk_eq_visitAll h]
  rcases hr : a.visitAll gatherText (a.preorder id h) "" with ⟨r, t⟩
  rw [hr] at herror
  have hr : r = .error (.nodeNotFound x) := herror
  rw [hr]

/-! ### Pages -/

namespace Numbers

variable {t : Tree}

/-- Document order is ascending from any node of a page. -/
theorem preorder_pairwise_lt (h : a.Numbers t) (hid : a.InRange id) (acyclic : a.AcyclicFrom id) :
    (a.preorder id acyclic).Pairwise (· < ·) := by
  have toNat : ∀ i < a.size, i.toUInt32.toNat = i := by
    intro i hi
    obtain ⟨path, u, hu, rfl⟩ := h.place i hi
    exact h.toNat_idAt hu
  obtain ⟨path, u, hu, rfl⟩ := h.exists_place hid
  have hsize : t.number path + u.size ≤ a.size := by
    rw [h.size]
    exact Tree.number_add_size_le hu
  rw [h.preorder_idAt u path hu acyclic, List.pairwise_map]
  have ascending : (List.range' (t.number path) u.size).Pairwise (· < ·) :=
    List.pairwise_lt_range'
  refine ascending.imp_of_mem fun {i j} hi hj hij => ?_
  have hi := (List.mem_range'_1.mp hi).2
  have hj := (List.mem_range'_1.mp hj).2
  rw [UInt32.lt_iff_toNat_lt, toNat i (by omega), toNat j (by omega)]
  exact hij

/-- What a search finds on a page stands in document order once it is sorted. -/
theorem mergeSort_find (h : a.Numbers t) (hid : a.InRange id) (acyclic : a.AcyclicFrom id)
    (test : Node → Bool) :
    (a.find (some id) test).mergeSort = (a.preorder id acyclic).filter (a.passes test) := by
  have sorted : ((a.find (some id) test).mergeSort).Pairwise fun x y => decide (x ≤ y) = true := by
    apply List.pairwise_mergeSort
    · intro x y z hxy hyz
      rw [decide_eq_true_eq] at hxy hyz ⊢
      exact UInt32.le_trans hxy hyz
    · intro x y
      rcases UInt32.le_total x y with hxy | hxy
      · simp [hxy]
      · simp [hxy]
  have ascending : ((a.preorder id acyclic).filter (a.passes test)).Pairwise
      fun x y => decide (x ≤ y) = true := by
    refine ((h.preorder_pairwise_lt hid acyclic).filter _).imp fun hxy => ?_
    rw [decide_eq_true_eq]
    exact UInt32.le_of_lt hxy
  have perm : ((a.find (some id) test).mergeSort).Perm
      ((a.preorder id acyclic).filter (a.passes test)) :=
    (List.mergeSort_perm _ _).trans (find_perm_preorder acyclic test).symm
  refine List.Perm.eq_of_pairwise ?_ sorted ascending perm
  intro x y _ _ hxy hyx
  rw [decide_eq_true_eq] at hxy hyx
  exact UInt32.le_antisymm hxy hyx

end Numbers
end Arena

/-- **Walks and searches meet the same nodes, and the text of a node is what a search for texts
finds.** A walk whose visitor does not fail comes to its end exactly when all that can be reached is
in range; then it has called the visitor with the nodes that a search for everything finds, and the
text of the node is the data of the text nodes in document order, without the white space at its two
ends; these are the nodes that a search for texts finds. Otherwise it is the failure at the first id
out of range. On a page that could be read the text of each node is the data of the texts found
below it by ascending ids, without the white space at its two ends. -/
theorem Arena.walks_agree_with_searches :
    (∀ (a : Arena) (id : NodeId) (h : a.AcyclicFrom id),
      (∀ (σ : Type) (visit : Visitor σ), (∀ n s, (visit.at n s).1 = .ok ()) → ∀ s,
        ((a.walk id visit s).1 = .ok () ↔
          ∀ x, Relation.ReflTransGen a.Lists id x → a.InRange x) ∧
        ((∀ x, Relation.ReflTransGen a.Lists id x → a.InRange x) →
          ∃ called t, a.walk id visit.traced ([], s) = (.ok (), called, t) ∧
            called.Perm (a.nodesAt (a.find (some id) fun _ => true)))) ∧
      ((∀ x, Relation.ReflTransGen a.Lists id x → a.InRange x) →
        (∃ t, a.textContent id = .ok t ∧
          Text.TrimsTo (Node.joinText (a.nodesAt (a.preorder id h))) t) ∧
        ((a.nodesAt (a.preorder id h)).filter Node.isText).Perm
          (a.nodesAt (a.findText (some id)))) ∧
      ((¬ ∀ x, Relation.ReflTransGen a.Lists id x → a.InRange x) →
        ∃ x, (a.preorder id h).find? (fun id => !decide (a.InRange id)) = some x ∧
          a.textContent id = .error (.nodeNotFound x))) ∧
    ∀ (l : Loader) (read : List (List UInt8) → Document) (s : Source)
      (blocks : List (List UInt8)), s.readAll = .ok blocks →
      (Import.tree l.dropBlankText (read blocks)).size ≤ UInt32.size →
      ∃ a : Arena, l.loadWith read s = (.ok 0, { l with arena := a }) ∧
        ∀ id, a.InRange id →
          ∃ t, a.textContent id = .ok t ∧
            Text.TrimsTo (String.join
              ((a.nodesAt (a.findText (some id)).mergeSort).map (·.value))) t := by
  constructor
  · intro a id h
    refine ⟨fun σ visit hv s => ⟨Arena.walk_ok_iff h hv s, fun hall => ?_⟩, fun hall => ⟨?_, ?_⟩,
      fun hsome => ?_⟩
    · obtain ⟨t, hwalk⟩ := Arena.walk_traced h hv hall s
      have perm := Arena.find_perm_preorder h fun _ => true
      refine ⟨_, t, hwalk, ?_⟩
      have all : (a.nodesAt (a.preorder id h)).filter (fun _ => true) =
          a.nodesAt (a.preorder id h) := List.filter_eq_self.mpr fun _ _ => rfl
      rw [← all, ← Arena.nodesAt_filter_passes]
      exact perm.filterMap a.get?
    · exact ⟨_, Arena.textContent_ok_of_inRange h hall, Text.trimsTo_trim _⟩
    · rw [← Arena.nodesAt_filter_passes]
      exact (Arena.find_perm_preorder h Node.isText).filterMap a.get?
    · have hexists : ∃ x ∈ a.preorder id h, (!decide (a.InRange x)) = true := by
        obtain ⟨x, hx⟩ := not_forall.mp hsome
        obtain ⟨hreach, hmissing⟩ := Classical.not_imp.mp hx
        exact ⟨x, (Arena.mem_preorder_iff h).mpr hreach, by simpa using hmissing⟩
      obtain ⟨x, hx⟩ := Option.isSome_iff_exists.mp (List.find?_isSome.mpr hexists)
      exact ⟨x, hx, Arena.textContent_of_find? h hx⟩
  · intro l read s blocks hread hsize
    obtain ⟨a, hload, h⟩ := l.exists_numbers read hread hsize
    refine ⟨a, hload, fun id hid => ?_⟩
    have acyclic := h.acyclic.acyclicFrom id
    have hall : ∀ x, Relation.ReflTransGen a.Lists id x → a.InRange x := fun x hx =>
      h.forest.inRange_of_reflTransGen hid hx
    have sorted : (a.findText (some id)).mergeSort =
        (a.preorder id acyclic).filter (a.passes Node.isText) :=
      h.mergeSort_find hid acyclic Node.isText
    refine ⟨_, Arena.textContent_ok_of_inRange acyclic hall, ?_⟩
    rw [sorted, Arena.nodesAt_filter_passes]
    exact Text.trimsTo_trim _

namespace Arena

/-- A text between blanks below two elements, twice below the second of them, and an id out of
range. -/
def padded : Arena where
  nodes := #[{ Node.element "p" [] with children := [1, 9, 2] },
    { Node.element "b" [] with children := [3] },
    { Node.element "i" [] with children := [3, 4, 3] },
    Node.text "\u00a0x\x0b", Node.comment "y"]
  root := some 0

/-- A text within two elements, before one within one element, both with blanks at their ends. -/
def paddedPage : Document where
  children := [.part (.element "p" [])
      [.part (.element "b" []) [.part (.text "\t\u0085\u00a0x\u2003") [] []] []] [],
    .part (.element "i" []) [.part (.text "\x0by\u2029\u3000\n") [] []] []]

theorem walks_agree_with_searches_padded :
    (∃ h : padded.AcyclicFrom 2, (padded.walk 2 gatherText "").1 = .ok () ∧
      padded.textContent 2 = .ok "x\x0b\u00a0x" ∧
      Text.TrimsTo (Node.joinText (padded.nodesAt (padded.preorder 2 h))) "x\x0b\u00a0x") ∧
    (∃ h : padded.AcyclicFrom 0,
      (padded.preorder 0 h).find? (fun id => !decide (padded.InRange id)) = some 9) ∧
    Source.readAll [.octets [0x61]] = .ok [[0x61]] ∧
    (Import.tree false paddedPage).size ≤ UInt32.size ∧
    ∃ a : Arena,
      (Loader.new false).loadWith (fun _ => paddedPage) [.octets [0x61]] = (.ok 0, ⟨false, a⟩) ∧
      a.InRange 0 ∧ a.findText (some 0) = [5, 3] ∧ a.textContent 0 = .ok "x\u2003\x0by" ∧
      Text.TrimsTo "\t\u0085\u00a0x\u2003\x0by\u2029\u3000\n" "x\u2003\x0by" := by
  obtain ⟨arenas, pages⟩ := walks_agree_with_searches
  have acyclic : padded.Acyclic := acyclic_of_later (by decide)
  obtain ⟨walk, found, -⟩ := arenas padded 2 (acyclic.acyclicFrom 2)
  obtain ⟨walk', -, missing⟩ := arenas padded 0 (acyclic.acyclicFrom 0)
  have inRange := (walk _ gatherText at_gatherText_ok "").1.mp (by decide +kernel)
  obtain ⟨t, ht, trims⟩ := (found inRange).1
  have hxx : padded.textContent 2 = .ok "x\x0b\u00a0x" := by decide +kernel
  rw [hxx, Except.ok.injEq] at ht
  subst ht
  have hsome : ¬ ∀ x, Relation.ReflTransGen padded.Lists 0 x → padded.InRange x := fun hall => by
    have hok := (walk' _ gatherText at_gatherText_ok "").1.mpr hall
    exact absurd hok (by decide +kernel)
  obtain ⟨x, hx, htext⟩ := missing hsome
  have hnine : padded.textContent 0 = .error (.nodeNotFound 9) := by decide +kernel
  rw [hnine, Except.error.injEq, Failure.nodeNotFound.injEq] at htext
  have hread : Source.readAll [.octets [0x61]] = .ok [[0x61]] := by decide
  have hsize : (Import.tree false paddedPage).size ≤ UInt32.size := by decide
  obtain ⟨a, hload, htexts⟩ := pages (Loader.new false) (fun _ => paddedPage) _ _ hread hsize
  have ha : a = ((Loader.new false).loadWith (fun _ => paddedPage) [.octets [0x61]]).2.arena := by
    rw [hload]
  have hroot : a.InRange 0 := by
    rw [ha]
    decide +kernel
  have hfound : a.findText (some 0) = [5, 3] := by
    rw [ha]
    decide +kernel
  have hsorted : ([5, 3] : List NodeId).mergeSort = [3, 5] := by simp [List.mergeSort]
  have hjoined : String.join ((a.nodesAt [3, 5]).map (·.value)) =
      "\t\u0085\u00a0x\u2003\x0by\u2029\u3000\n" := by
    rw [ha]
    decide +kernel
  have hxy : a.textContent 0 = .ok "x\u2003\x0by" := by
    rw [ha]
    decide +kernel
  obtain ⟨u, hu, trims'⟩ := htexts 0 hroot
  rw [hxy, Except.ok.injEq] at hu
  subst hu
  rw [hfound, hsorted, hjoined] at trims'
  exact ⟨⟨acyclic.acyclicFrom 2, by decide +kernel, hxx, trims⟩,
    ⟨acyclic.acyclicFrom 0, htext ▸ hx⟩, hread, hsize, a, hload, hroot, hfound, hxy, trims'⟩

end Arena
end MarkupSearch
