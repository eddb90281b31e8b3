/-
# Leaving comments out

A rendering may leave comments out, or the arena may: when the ids of comments are taken from all
lists of children (`Arena.withoutComments`) and all else stays, ids too, no comment is come to any
more. Both give the same text or the same failure (`renderAll_skipComments`). A comment that is left
out writes nothing and does not look at its children, and what a text or an element writes of itself
does not hang on which children are listed, so the recursion goes over the children that stay
(`inOrder_pmap_filter`), and a failure among these stays where it was.

Key definitions: `Arena.isComment`, `Arena.withoutComments`.
Key theorems: `Arena.nodeMarkup_uncommented`, `Arena.markup_skipComments`,
`Arena.renderAll_skipComments`.
-/
import MarkupSearch.Proofs.Rendering

namespace MarkupSearch

/-- Parts that write nothing may be left out of a list of parts. -/
theorem Render.inOrder_pmap_filter {P Q : NodeId → Prop}
    {f : (id : NodeId) → P id → Except Failure String}
    {g : (id : NodeId) → Q id → Except Failure String} {keep : NodeId → Bool} :
    ∀ (ids : List NodeId) (hP : ∀ id ∈ ids, P id) (hQ : ∀ id ∈ ids.filter keep, Q id),
      (∀ id ∈ ids, ∀ (hp : P id) (hq : Q id), keep id = true → f id hp = g id hq) →
      (∀ id ∈ ids, ∀ hp : P id, keep id = false → f id hp = .ok "") →
      inOrder (ids.pmap f hP) = inOrder ((ids.filter keep).pmap g hQ)
  | [], _, _, _, _ => rfl
  | id :: ids, hP, hQ, same, silent => by
    have rest := fun hQ => inOrder_pmap_filter (g := g) ids
      (fun c hc => hP c (List.mem_cons_of_mem _ hc)) hQ
      (fun c hc => same c (List.mem_cons_of_mem _ hc))
      fun c hc => silent c (List.mem_cons_of_mem _ hc)
    cases hk : keep id with
    | true =>
      simp only [List.filter_cons_of_pos hk] at hQ ⊢
      rw [List.pmap_cons, List.pmap_cons, inOrder, inOrder,
        same id List.mem_cons_self _ (hQ id List.mem_cons_self) hk, rest]
    | false =>
      simp only [List.filter_cons_of_neg (Bool.eq_false_iff.mp hk)] at hQ ⊢
      rw [List.pmap_cons, inOrder, silent id List.mem_cons_self _ hk, rest hQ]
      cases inOrder _ with
      | error e => rfl
      | ok s => exact congrArg Except.ok String.empty_append

namespace Arena

variable {a : Arena} {id : NodeId}

/-- Whether an id is that of a comment. -/
def isComment (a : Arena) (id : NodeId) : Bool := (a.get? id).any fun n => n.kind = .comment

/-- The ids that are not those of comments. -/
def notComments (a : Arena) (ids : List NodeId) : List NodeId :=
  ids.filter fun id => !a.isComment id

/-- A node that lists its children without comments. -/
def uncommented (a : Arena) (n : Node) : Node := { n with children := a.notComments n.children }

/-- The arena with the ids of comments taken from all lists of children. -/
def withoutComments (a : Arena) : Arena := { a with nodes := a.nodes.map a.uncommented }

theorem get?_withoutComments (id : NodeId) :
    a.withoutComments.get? id = (a.get? id).map a.uncommented :=
  Array.getElem?_map

theorem childIds_withoutComments (id : NodeId) :
    a.withoutComments.childIds id = a.notComments (a.childIds id) := by
  rw [childIds, childIds, get?_withoutComments]
  cases a.get? id with
  | none => rfl
  | some n => rfl

theorem Acyclic.withoutComments (h : a.Acyclic) : a.withoutComments.Acyclic := by
  have still : ∀ p c, a.withoutComments.Lists p c → a.Lists p c := by
    intro p c hc
    rw [Lists, childIds_withoutComments] at hc
    exact List.mem_of_mem_filter hc
  exact fun id cycle => h id (Relation.TransGen.mono still _ _ cycle)

/-- What a node that is no comment writes of itself is the same, around the same inner markup. -/
theorem nodeMarkup_uncommented {n : Node} (hk : n.kind ≠ .comment)
    (inner : Except Failure String) :
    a.withoutComments.nodeMarkup {} (a.uncommented n) inner =
      a.nodeMarkup { skipComments := true } n inner := by
  unfold nodeMarkup
  cases hn : n.kind with
  | comment => exact absurd hn hk
  | text =>
    simp only [uncommented, hn]
    cases n.parent with
    | none => rfl
    | some p =>
      simp only [get?_withoutComments]
      cases a.get? p with
      | none => rfl
      | some parent => rfl
  | element => simp only [uncommented, hn]
  | instruction => simp only [uncommented, hn]
  | document => simp only [uncommented, hn]
  | doctype => simp only [uncommented, hn]

/-- A comment that is left out writes nothing. -/
theorem markup_of_isComment (h : a.AcyclicFrom id) (hid : a.isComment id = true) :
    a.markup { skipComments := true } id h = .ok "" := by
  rw [isComment, Option.any_eq_true] at hid
  obtain ⟨n, hn, hk⟩ := hid
  rw [markup_of_get? h hn, nodeMarkup, of_decide_eq_true hk]
  rfl

/-- **The markup without comments** is the markup in the arena without comments. -/
theorem markup_skipComments (id : NodeId) (h : a.AcyclicFrom id)
    (h' : a.withoutComments.AcyclicFrom id) (hid : a.isComment id = false) :
    a.markup { skipComments := true } id h = a.withoutComments.markup {} id h' := by
  -- on what lies below; the children are gone through together, those that stay
  have below := h.depthLE.acc
  induction below with
  | intro id _ ih =>
    cases hn : a.get? id with
    | none =>
      have hn' : a.withoutComments.get? id = none := by rw [get?_withoutComments, hn]; rfl
      rw [markup_of_get?_eq_none h hn, markup_of_get?_eq_none h' hn']
    | some n =>
      have hn' : a.withoutComments.get? id = some (a.uncommented n) := by
        rw [get?_withoutComments, hn]
        rfl
      have hk : n.kind ≠ .comment := by
        simpa [isComment, hn] using hid
      rw [markup_of_get? h hn, markup_of_get? h' hn', nodeMarkup_uncommented hk]
      congr 1
      refine Render.inOrder_pmap_filter n.children _ _ (fun c hc hp hq keep => ?_)
        fun c hc hp skip => ?_
      · exact ih c (lists_of_mem_children hn hc) hp hq (by simpa using keep)
      · exact markup_of_isComment hp (by simpa using skip)

/-- **Skipping comments renders as if they were not there**: several nodes, of which comments are
left out too, and one node that is no comment, with the same text or the same failure. -/
theorem renderAll_skipComments (acyclic : a.Acyclic) :
    (∀ ids : List NodeId, a.renderAll { skipComments := true } ids =
      a.withoutComments.renderAll {} (a.notComments ids)) ∧
    ∀ id : NodeId, a.isComment id = false →
      a.render { skipComments := true } id = a.withoutComments.render {} id := by
  have still := acyclic.withoutComments
  refine ⟨fun ids => ?_, fun id hid => ?_⟩
  · rw [renderAll, renderAll, foldlM_renderOnto_eq ids fun c _ => acyclic.acyclicFrom c,
      foldlM_renderOnto_eq _ fun c _ => still.acyclicFrom c]
    congr 1
    refine Render.inOrder_pmap_filter ids _ _ (fun c _ hp hq keep => ?_) fun c _ hp skip => ?_
    · exact markup_skipComments c hp hq (by simpa using keep)
    · exact markup_of_isComment hp (by simpa using skip)
  · rw [render_eq (acyclic.acyclicFrom id), render_eq (still.acyclicFrom id)]
    exact markup_skipComments id _ _ hid

/-- A document with a comment that lists children, also below a void element, and a text that names
the comment as its parent; then an element with an id out of range behind the comment. -/
def remarked : Arena where
  nodes := #[{ Node.document with children := [5, 1, 2] },
    { Node.element "br" [] with children := [5] },
    { Node.element "script" [] with children := [5, 3, 5] },
    { Node.text "a<b" with parent := some 5 }, { Node.element "p" [] with children := [5, 9] },
    { Node.comment "c" with children := [6, 9] }, Node.text "x"]
  root := some 0

theorem renderAll_skipComments_remarked :
    remarked.Acyclic ∧ remarked.isComment 0 = false ∧
      remarked.withoutComments.childIds 2 = [3] ∧
      remarked.render { skipComments := true } 0 = remarked.withoutComments.render {} 0 ∧
      remarked.render { skipComments := true } 0 = .ok "<br><script>a&lt;b</script>" ∧
      remarked.renderAll { skipComments := true } [5, 0, 4] =
        remarked.withoutComments.renderAll {} [0, 4] ∧
      remarked.renderAll { skipComments := true } [5, 0, 4] = .error (.nodeNotFound 9) := by
  have h : remarked.Acyclic := acyclic_of_later (by decide)
  have children : remarked.withoutComments.childIds 2 = [3] := by
    rw [childIds_withoutComments]
    decide
  obtain ⟨several, one⟩ := renderAll_skipComments h
  exact ⟨h, by decide, children, one 0 (by decide), by decide +kernel, several [5, 0, 4],
    by decide +kernel⟩

end Arena
end MarkupSearch
