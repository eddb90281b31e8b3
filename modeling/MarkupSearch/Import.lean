/-
# From a document to an arena

A document is taken over node by node in document order, each node under the id that comes next, so
the ids number the tree in pre-order with the document as node 0. What still has to be taken over
waits on a stack with the id of its parent. Texts of white space may be left out, with whatever lies
below them.

Key definitions: `Import.place`, `Import.document`.
-/
import MarkupSearch.Arena
import MarkupSearch.Markup

namespace MarkupSearch
namespace Import

/-- The number of nodes in what waits. -/
def waitingSize (waiting : List (Markup × NodeId)) : Nat :=
  Markup.sizeAll (waiting.map (·.1))

/-- Whether a part of a document is left out. -/
def isLeftOut (dropBlankText : Bool) (m : Markup) : Bool := dropBlankText && m.label.isBlankText

theorem waitingSize_inner (m : Markup) (id parent : NodeId) (waiting : List (Markup × NodeId)) :
    waitingSize (m.inner.map (·, id) ++ waiting) < waitingSize ((m, parent) :: waiting) := by
  have h : (m.inner.map (·, id)).map (·.1) = m.inner := by
    rw [List.map_map]; exact List.map_id' _
  simp only [waitingSize, List.map_append, List.map_cons, h, Markup.sizeAll_append, Markup.sizeAll,
    Markup.size_eq m]
  omega

theorem waitingSize_tail (p : Markup × NodeId) (waiting : List (Markup × NodeId)) :
    waitingSize waiting < waitingSize (p :: waiting) := by
  simp only [waitingSize, List.map_cons, Markup.sizeAll, Markup.size_eq p.1]
  omega

/-- Takes over what waits, the head of the list first. -/
def place (dropBlankText : Bool) : List (Markup × NodeId) → Edit Unit
  | [] => return ()
  | (m, parent) :: waiting =>
    if isLeftOut dropBlankText m then place dropBlankText waiting
    else do
      let id ← Edit.insertUnder parent m.label.node
      place dropBlankText (m.inner.map (·, id) ++ waiting)
termination_by waiting => waitingSize waiting
decreasing_by
  · exact waitingSize_tail _ _
  · exact waitingSize_inner _ _ _ _

/-- Takes over a document below a new root; the root's id. -/
def document (dropBlankText : Bool) (d : Document) : Edit NodeId := do
  let root ← Edit.insert .document
  place dropBlankText (d.children.map (·, root))
  return root

end Import
end MarkupSearch
