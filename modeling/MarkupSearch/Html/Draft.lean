/-
# A document being built

While a document is read its nodes move about, so they are kept as cells that know their parent and
their children by number. Cell 0 is the document. The contents of a template hang on a cell of their
own, which is nobody's child. Text that is put next to a text joins it.

Key definitions: `Html.Draft`, `Html.Draft.append`, `Html.Draft.insertBefore`, `Html.Draft.detach`,
`Html.Draft.document`.
-/
import MarkupSearch.Html.Name
import MarkupSearch.Markup

namespace MarkupSearch
namespace Html

/-- What a cell is. -/
inductive CellData where
  /-- The document, or the contents of a template. -/
  | root
  | doctype (name : String)
  | text (s : String)
  | comment (s : String)
  | element (name : ElementName) (attributes : List MarkupAttribute) (contents : Option Nat)

structure Cell where
  data : CellData
  parent : Option Nat
  children : Array Nat

structure Draft where
  cells : Array Cell

namespace Draft

/-- A draft with no more than the document. -/
def empty : Draft := ⟨#[⟨.root, none, #[]⟩]⟩

def modify (d : Draft) (i : Nat) (f : Cell → Cell) : Draft := ⟨d.cells.modify i f⟩

/-- A new cell without links. -/
def create (d : Draft) (data : CellData) : Nat × Draft :=
  (d.cells.size, ⟨d.cells.push ⟨data, none, #[]⟩⟩)

def parent? (d : Draft) (i : Nat) : Option Nat := d.cells[i]?.bind (·.parent)

def children (d : Draft) (i : Nat) : Array Nat :=
  match d.cells[i]? with
  | some c => c.children
  | none => #[]

/-- The cell of a template's contents, or the cell itself when it is no template. -/
def inside (d : Draft) (i : Nat) : Nat :=
  match d.cells[i]? with
  | some ⟨.element _ _ (some contents), _, _⟩ => contents
  | _ => i

def attributes (d : Draft) (i : Nat) : List MarkupAttribute :=
  match d.cells[i]? with
  | some ⟨.element _ attrs _, _, _⟩ => attrs
  | _ => []

/-- Adds the attributes whose names an element does not have yet. -/
def addAttributes (d : Draft) (i : Nat) (new : List MarkupAttribute) : Draft :=
  d.modify i fun c =>
    match c.data with
    | .element name old contents =>
      let missing := new.filter fun a =>
        !old.any fun b => a.space == b.space && a.localName == b.localName
      { c with data := .element name (old ++ missing) contents }
    | _ => c

/-- Makes a cell the last child of another. -/
def append (d : Draft) (parent child : Nat) : Draft :=
  (d.modify parent fun c => { c with children := c.children.push child }).modify child
    fun c => { c with parent := some parent }

/-- Makes a cell the child before another one of the same parent. -/
def insertBefore (d : Draft) (sibling child : Nat) : Draft :=
  match d.parent? sibling with
  | none => d
  | some p =>
    let children := d.children p
    let i := (children.idxOf? sibling).getD children.size
    let new := children.toList.take i ++ child :: children.toList.drop i
    (d.modify p fun c => { c with children := new.toArray }).modify child
      fun c => { c with parent := some p }

/-- Takes a cell away from its parent. -/
def detach (d : Draft) (i : Nat) : Draft :=
  match d.parent? i with
  | none => d
  | some p =>
    (d.modify p fun c => { c with children := c.children.filter (· != i) }).modify i
      fun c => { c with parent := none }

/-- Moves all children of a cell to the end of another's. -/
def moveChildren (d : Draft) (source target : Nat) : Draft :=
  let children := d.children source
  let d := children.foldl (fun d i => d.modify i fun c => { c with parent := some target }) d
  let d := d.modify source fun c => { c with children := #[] }
  d.modify target fun c => { c with children := c.children ++ children }

/-- Whether a cell is a text. -/
def isText (d : Draft) (i : Nat) : Bool :=
  match d.cells[i]? with
  | some ⟨.text _, _, _⟩ => true
  | _ => false

/-- Adds to the end of a text. -/
def extendText (d : Draft) (i : Nat) (s : String) : Draft :=
  d.modify i fun c =>
    match c with
    | ⟨.text t, parent, children⟩ => ⟨.text (t ++ s), parent, children⟩
    | c => c

/-- Puts text at the end of a cell's children. -/
def appendText (d : Draft) (parent : Nat) (s : String) : Draft :=
  match (d.children parent).back? with
  | some last =>
    if d.isText last then d.extendText last s
    else
      let (i, d) := d.create (.text s)
      d.append parent i
  | none =>
    let (i, d) := d.create (.text s)
    d.append parent i

/-- The child before this one. -/
def previous? (d : Draft) (i : Nat) : Option Nat := do
  let p ← d.parent? i
  let children := d.children p
  let k ← children.idxOf? i
  if k = 0 then none else children[k - 1]?

/-- Puts text before a cell. -/
def insertTextBefore (d : Draft) (sibling : Nat) (s : String) : Draft :=
  match d.previous? sibling with
  | some prev =>
    if d.isText prev then d.extendText prev s
    else
      let (i, d) := d.create (.text s)
      d.insertBefore sibling i
  | none =>
    let (i, d) := d.create (.text s)
    d.insertBefore sibling i

/-- The tree from a cell down, to a depth. -/
def tree (d : Draft) : Nat → Nat → List Markup
  | 0, _ => []
  | depth + 1, i =>
    match d.cells[i]? with
    | none => []
    | some c =>
      let children := c.children.toList.flatMap (d.tree depth)
      match c.data with
      | .root => children
      | .doctype name => [.part (.doctype name) children []]
      | .text s => [.part (.text s) children []]
      | .comment s => [.part (.comment s) children []]
      | .element name attrs contents =>
        let contents := contents.toList.flatMap (d.tree depth)
        [.part (.element name.localName attrs) children contents]

/-- The document as a tree. No path down is longer than there are cells. -/
def document (d : Draft) : Document := ⟨d.tree d.cells.size 0⟩

end Draft
end Html
end MarkupSearch
