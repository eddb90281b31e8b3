/-
# The arena

An arena holds nodes one after the other; the place of a node is its id, in 32 bits. Links are
ids, so a link may point at no node, several parents may list one node, and the two directions may
disagree: an arena is plain data, and what keeps it in order is how it is edited.

An edit reads and changes the arena and may fail. What it did before it failed stays done, so that
a failed edit leaves the arena as it was has to be seen from the edit itself: each of those below
looks up all it needs before its first change.

Key definitions: `Arena`, `Edit`, `Edit.insert`, `Edit.link`, `Edit.insertUnder`, `Edit.setRoot`.
-/
import MarkupSearch.Node

namespace MarkupSearch

structure Arena where
  nodes : Array Node
  root : Option NodeId

namespace Arena

def empty : Arena := ⟨#[], none⟩

/-- An arena without nodes that has room for so many. -/
def withCapacity (capacity : Nat) : Arena := ⟨Array.emptyWithCapacity capacity, none⟩

def size (a : Arena) : Nat := a.nodes.size

def isEmpty (a : Arena) : Bool := a.nodes.isEmpty

/-- The node with an id, if there is one. -/
def get? (a : Arena) (id : NodeId) : Option Node := a.nodes[id.toNat]?

/-- The node with an id. -/
def get (a : Arena) (id : NodeId) : Except Failure Node :=
  match a.get? id with
  | some n => .ok n
  | none => .error (.nodeNotFound id)

/-- Changes the node with an id, if there is one. -/
def modify (a : Arena) (id : NodeId) (f : Node → Node) : Arena :=
  { a with nodes := a.nodes.modify id.toNat f }

/-- The root node. -/
def rootNode (a : Arena) : Except Failure Node :=
  match a.root with
  | some id => a.get id
  | none => .error .noRoot

/-- The nodes that a node lists as its children, in order. -/
def children (a : Arena) (id : NodeId) : Except Failure (List Node) := do
  let n ← a.get id
  n.children.mapM a.get

/-- The node that a node names as its parent. -/
def parent (a : Arena) (id : NodeId) : Except Failure (Option Node) := do
  let n ← a.get id
  match n.parent with
  | some p => return some (← a.get p)
  | none => return none

end Arena

/-- A change of an arena that may fail part of the way. -/
abbrev Edit (α : Type) := ExceptT Failure (StateM Arena) α

namespace Edit

/-- The outcome of an edit and the arena after it. -/
def outcome {α : Type} (e : Edit α) (a : Arena) : Except Failure α × Arena := Id.run (e.run.run a)

/-- The node with an id. -/
def get (id : NodeId) : Edit Node := do
  match (← getThe Arena).get? id with
  | some n => return n
  | none => throw (.nodeNotFound id)

/-- Changes the node with an id. -/
def change (id : NodeId) (f : Node → Node) : Edit Unit := do
  let _ ← get id
  modifyThe Arena fun a => a.modify id f

/-- Puts a node at the end of the arena, with its place as its id. -/
def insert (n : Node) : Edit NodeId := do
  let id := (← getThe Arena).size.toUInt32
  modifyThe Arena fun a => { a with nodes := a.nodes.push { n with id := id } }
  return id

/-- Makes a node the last child of another. -/
def link (parent child : NodeId) : Edit Unit := do
  let _ ← get child
  change parent fun n => { n with children := n.children ++ [child] }
  change child fun n => { n with parent := some parent }

/-- Puts a node into the arena as the last child of another. -/
def insertUnder (parent : NodeId) (n : Node) : Edit NodeId := do
  let _ ← get parent
  let id ← insert n
  link parent id
  return id

/-- Makes a node the root. -/
def setRoot (id : NodeId) : Edit Unit := do
  let _ ← get id
  modifyThe Arena fun a => { a with root := some id }

/-- Takes all nodes and the root away. -/
def clear : Edit Unit :=
  modifyThe Arena fun _ => Arena.empty

end Edit
end MarkupSearch
