/-
# Document trees

A document as it is read: a finite ordered tree. Each part has a label that says what it is, its
children and, as templates do, contents that are kept apart from these. An element carries its
attributes as the markup has them, with the prefix of a foreign attribute apart from its local name.

Key definitions: `Label`, `Markup`, `Markup.inner`, `Markup.size`, `Label.node`.
-/
import MarkupSearch.Node

namespace MarkupSearch

/-- An attribute of a document tree. -/
structure MarkupAttribute where
  space : Option String
  localName : String
  value : String
deriving DecidableEq, Repr

namespace MarkupAttribute

/-- The written name: the prefix, a colon and the local name, or the local name alone. -/
def name (a : MarkupAttribute) : String :=
  match a.space with
  | some p => p ++ ":" ++ a.localName
  | none => a.localName

end MarkupAttribute

/-- What a part of a document is, apart from what lies below it. -/
inductive Label where
  | document
  | doctype (name : String)
  | text (s : String)
  | comment (s : String)
  | instruction (target data : String)
  | element (name : String) (attributes : List MarkupAttribute)
deriving DecidableEq, Repr

namespace Label

/-- The node for a part of a document, without links. -/
def node : Label → Node
  | document => .document
  | doctype name => .doctype name
  | text s => .text s
  | comment s => .comment s
  | instruction target data => .instruction target data
  | element name attributes => .element name (attributes.map fun a => ⟨a.name, a.value⟩)

/-- Whether this is a text of white space only. -/
def isBlankText : Label → Bool
  | text s => Text.allBlank s
  | _ => false

end Label

/-- A part of a document with all below it. -/
inductive Markup where
  | part (label : Label) (children contents : List Markup)

namespace Markup

def label : Markup → Label
  | part label _ _ => label

/-- What lies directly below: the children, then the contents of a template. -/
def inner : Markup → List Markup
  | part _ children contents => children ++ contents

mutual
/-- The number of parts from this one down. -/
def size : Markup → Nat
  | part _ children contents => 1 + (sizeAll children + sizeAll contents)

/-- The number of parts of several trees. -/
def sizeAll : List Markup → Nat
  | [] => 0
  | m :: ms => size m + sizeAll ms
end

theorem sizeAll_append (ms ns : List Markup) : sizeAll (ms ++ ns) = sizeAll ms + sizeAll ns := by
  induction ms with
  | nil => simp [sizeAll]
  | cons m ms ih => simp [sizeAll, ih, Nat.add_assoc]

theorem size_eq (m : Markup) : m.size = 1 + sizeAll m.inner := by
  cases m
  simp [size, inner, sizeAll_append]

end Markup

/-- A document: what lies below its root. -/
structure Document where
  children : List Markup

end MarkupSearch
