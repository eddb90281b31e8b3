/-
# Nodes

A node carries its kind, its name, its character data and its attributes in source order, and
links to other nodes of the arena by id: the children in sibling order and the parent, if any.
Nothing here ties the two directions together; that is the arena's work.

Key definitions: `Node`, `Node.attr`, `Node.classes`, `Node.hasClass`.
-/
import MarkupSearch.Failure
import MarkupSearch.Text.Blank
import MarkupSearch.Text.Case

namespace MarkupSearch

inductive NodeKind where
  | element
  | text
  | instruction
  | comment
  | document
  | doctype
deriving DecidableEq, Repr

namespace NodeKind

/-- All kinds, in the order of their numbers. -/
def all : List NodeKind := [element, text, instruction, comment, document, doctype]

/-- The number of a kind among the node types of the document object model. -/
def number : NodeKind → Nat
  | element => 1
  | text => 3
  | instruction => 7
  | comment => 8
  | document => 9
  | doctype => 10

/-- The written name of a kind. -/
def name : NodeKind → String
  | element => "Element"
  | text => "Text"
  | instruction => "ProcessingInstruction"
  | comment => "Comment"
  | document => "Document"
  | doctype => "DocumentType"

/-- The kind with a written name. -/
def ofName? (s : String) : Option NodeKind :=
  all.find? fun k => k.name == s

end NodeKind

structure Attribute where
  name : String
  value : String
deriving DecidableEq, Repr

structure Node where
  id : NodeId
  kind : NodeKind
  parent : Option NodeId
  children : List NodeId
  name : String
  value : String
  attributes : List Attribute
deriving DecidableEq, Repr

namespace Node

/-- A node without links; its id is given on entry into an arena. -/
def detached (kind : NodeKind) (name value : String) (attributes : List Attribute) : Node :=
  ⟨0, kind, none, [], name, value, attributes⟩

def document : Node := detached .document "#document" "" []

def element (tag : String) (attributes : List Attribute) : Node :=
  detached .element tag "" attributes

def text (value : String) : Node := detached .text "#text" value []

def comment (value : String) : Node := detached .comment "#comment" value []

def doctype (name : String) : Node := detached .doctype name "" []

def instruction (target data : String) : Node := detached .instruction target data []

/-- The node with one attribute more, at the end. -/
def withAttr (n : Node) (name value : String) : Node :=
  { n with attributes := n.attributes ++ [⟨name, value⟩] }

def isElement (n : Node) : Bool := n.kind = .element

def isText (n : Node) : Bool := n.kind = .text

/-- The name of an element; other nodes have no tag. -/
def tagName (n : Node) : Option String :=
  if n.isElement then some n.name else none

/-- The value of the first attribute with this very name. -/
def attr (n : Node) (name : String) : Option String :=
  (n.attributes.find? fun a => a.name == name).map (·.value)

/-- The words of the `class` attribute. -/
def classes (n : Node) : List String :=
  match n.attr "class" with
  | some v => Text.words v
  | none => []

/-- Whether an element has this class, up to letter case. -/
def hasClass (n : Node) (name : String) : Bool :=
  n.isElement && n.classes.any fun c => Text.sameLetters c name

end Node
end MarkupSearch
