/-
# What can go wrong

Searches never fail. A look-up by id fails when the id is not in the arena, asking for the root
fails when none is set, and a page cannot be loaded when its source cannot be read.

Key definitions: `Failure`, `Failure.message`.
-/

namespace MarkupSearch

/-- Nodes are known by their place in the arena, in 32 bits. -/
abbrev NodeId := UInt32

inductive Failure where
  /-- No node has this id. -/
  | nodeNotFound (id : NodeId)
  /-- No root has been set. -/
  | noRoot
  /-- The source of a page gave this error. -/
  | unreadable (reason : String)
deriving DecidableEq, Repr

/-- What is told to the user. -/
def Failure.message : Failure → String
  | .nodeNotFound id => "Node not found: " ++ toString id.toNat
  | .noRoot => "Arena has no root node"
  | .unreadable reason => "IO error: " ++ reason

end MarkupSearch
