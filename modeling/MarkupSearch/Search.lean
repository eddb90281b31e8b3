/-
# Searching an arena

A search works through the arena level by level from where it starts: a visit is taken from the
head of a queue, the node is tested, and visits to its children join the tail. Ids out of range are
passed over. Nothing remembers where the search has been, so a node that is listed twice is met
twice.

A selector is followed stage by stage, each one strictly below the nodes that passed the one
before it; a node that lies below two of those is found twice.

Key definitions: `Arena.searchRound`, `Arena.find`, `Arena.findBelow`, `Arena.follow`,
`Arena.query`.
Key theorem: `Arena.pathsFrom_of_searchRound`.
-/
import MarkupSearch.Arena.Paths
import MarkupSearch.Loop
import MarkupSearch.Queue
import MarkupSearch.Selector

namespace MarkupSearch
namespace Arena

/-- Where a search stands. -/
structure SearchState where
  waiting : Queue Visit
  /-- The ids whose nodes passed the test, last found first. -/
  found : List NodeId

/-- One round of a search: the visit at the head of the queue. -/
def searchRound (a : Arena) (test : Node → Bool) (s : SearchState) :
    Round SearchState (List NodeId) :=
  match s.waiting.dequeue? with
  | none => .done s.found.reverse
  | some (v, waiting) =>
    match a.get? v.id with
    | none => .next ⟨waiting, s.found⟩
    | some n =>
      .next ⟨waiting.enqueueAll (v.below n.children),
        if test n then v.id :: s.found else s.found⟩

/-- Each round takes one of the paths that start with what waits. -/
theorem pathsFrom_of_searchRound {a : Arena} {test : Node → Bool} {s t : SearchState}
    (h : a.searchRound test s = .next t) :
    a.pathsFrom s.waiting.toList = a.pathsFrom t.waiting.toList + 1 := by
  unfold searchRound at h
  split at h
  · simp at h
  · next v waiting hq =>
    rw [Queue.toList_of_dequeue?_eq_some hq, pathsFrom_cons, pathCount_eq]
    split at h <;> injection h with h <;> subst h
    · next hn => simp [childIds, hn, Visit.below]; split <;> simp <;> omega
    · next n hn => simp only [childIds_of_get? hn, Queue.toList_enqueueAll, pathsFrom_append]; omega

/-- Works through a queue of visits. -/
def searchLoop (a : Arena) (test : Node → Bool) : Loop SearchState (List NodeId) where
  round := a.searchRound test
  weight s := a.pathsFrom s.waiting.toList
  lighter h := by rw [pathsFrom_of_searchRound h]; omega

/-- The nodes met from these ids on that pass the test, in level order. -/
def search (a : Arena) (test : Node → Bool) (ids : List NodeId) : List NodeId :=
  (a.searchLoop test).run ⟨.ofList (a.visits ids), []⟩

/-- The nodes from the root down, itself included, that pass the test; none without a root. -/
def find (a : Arena) (root : Option NodeId) (test : Node → Bool) : List NodeId :=
  a.search test root.toList

/-- The nodes strictly below a node that pass the test. -/
def findBelow (a : Arena) (id : NodeId) (test : Node → Bool) : List NodeId :=
  a.search test (a.childIds id)

/-- Follows the stages from a list of nodes, until none is left. -/
def followFrom (a : Arena) : List Stage → List NodeId → List NodeId
  | [], working => working
  | s :: stages, working =>
    match working.flatMap fun id => a.findBelow id s.accepts with
    | [] => []
    | next => followFrom a stages next

/-- The nodes that a list of stages leads to from the root. -/
def follow (a : Arena) (root : Option NodeId) (stages : List Stage) : List NodeId :=
  a.followFrom stages root.toList

/-- The nodes that a selector's text leads to from the root; a text without tokens leads nowhere. -/
def query (a : Arena) (root : Option NodeId) (selector : String) : List NodeId :=
  match Selector.parse selector with
  | ⟨[]⟩ => []
  | ⟨stages⟩ => a.follow root stages

/-- The elements of a name, from the root down. -/
def findTag (a : Arena) (root : Option NodeId) (name : String) : List NodeId :=
  a.find root (Stage.tag name).accepts

/-- The elements of a class, from the root down. -/
def findClass (a : Arena) (root : Option NodeId) (name : String) : List NodeId :=
  a.find root (Stage.ofClass name).accepts

/-- The text nodes, from the root down. -/
def findText (a : Arena) (root : Option NodeId) : List NodeId :=
  a.find root Stage.text.accepts

/-- The nodes that a selector's text leads to from the arena's own root. -/
def select (a : Arena) (selector : String) : List NodeId :=
  a.query a.root selector

end Arena
end MarkupSearch
