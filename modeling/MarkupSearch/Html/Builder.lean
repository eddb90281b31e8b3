/-
# Building a document from tokens

The builder holds the draft and what decides where the next token goes: the open elements, the
formatting list, the insertion mode and a few facts about the document so far. This module has the
actions that the rules of all modes share. A rule either is done with its token or hands one back,
which is then taken by the rules of the mode that is set by that time.

Key definitions: `Html.Mode`, `Html.Builder`, `Html.Build`, `Html.Outcome`, `Html.insertElement`,
`Html.insertText`, `Html.resetMode`.
-/
import MarkupSearch.Html.Draft
import MarkupSearch.Html.Lexer
import MarkupSearch.Html.OpenElements

namespace MarkupSearch
namespace Html

/-- The insertion modes. -/
inductive Mode where
  | initial
  | beforeHtml
  | beforeHead
  | inHead
  | afterHead
  | inBody
  | text
  | inTable
  | inTableText
  | inCaption
  | inColumnGroup
  | inTableBody
  | inRow
  | inCell
  | inSelect
  | inSelectInTable
  | inTemplate
  | afterBody
  | inFrameset
  | afterFrameset
  | afterAfterBody
  | afterAfterFrameset
deriving DecidableEq, Repr

structure Builder where
  draft : Draft
  openElements : List OpenElement
  formatting : List FormatEntry
  mode : Mode
  /-- The mode to go back to after the text of an element or of a table. -/
  returnMode : Mode
  /-- The modes of the open templates, innermost first. -/
  templateModes : List Mode
  /-- The `head` element. -/
  head : Option Nat
  /-- The `form` element that is open, outside of templates. -/
  form : Option Nat
  /-- Nothing has come yet that a frameset could not replace. -/
  framesetOk : Bool
  /-- Content that a table does not take goes before the table. -/
  fostering : Bool
  /-- A line feed that comes next is dropped. -/
  dropNewline : Bool
  /-- The document is laid out by the rules for old pages. -/
  oldLayout : Bool
  /-- The text of a table, last first. -/
  tableText : List Token
  /-- How the lexer is to read what follows a tag. -/
  textMode : TextMode

namespace Builder

def start : Builder where
  draft := .empty
  openElements := []
  formatting := []
  mode := .initial
  returnMode := .inBody
  templateModes := []
  head := none
  form := none
  framesetOk := true
  fostering := false
  dropNewline := false
  oldLayout := false
  tableText := []
  textMode := .content

end Builder

/-- An action of the builder. -/
abbrev Build (α : Type) := StateM Builder α

/-- What a rule leaves: nothing, or a token to be taken again. -/
abbrev Outcome := Option Token

def done : Build Outcome := return none

/-- Hands a token to the rules of a mode. -/
def continueIn (mode : Mode) (t : Token) : Build Outcome := do
  modify fun b => { b with mode := mode }
  return some t

def setMode (mode : Mode) : Build Unit := modify fun b => { b with mode := mode }

/-! ### Open elements -/

/-- Whether the innermost open element is of this sort. -/
def currentIs (sort : ElementName → Bool) : Build Bool := do
  match (← get).openElements with
  | e :: _ => return sort e.name
  | [] => return false

def currentIsHtml (name : String) : Build Bool := currentIs (·.isHtml name)

def changeOpen (f : List OpenElement → List OpenElement) : Build Unit :=
  modify fun b => { b with openElements := f b.openElements }

/-- Closes the innermost element. -/
def pop : Build Unit := changeOpen (·.drop 1)

/-- Closes elements through the first HTML element of a name. -/
def popThroughHtml (name : String) : Build Unit := changeOpen (popThrough (·.isHtml name))

/-- Closes elements until one of this sort is innermost. -/
def popUntil (sort : ElementName → Bool) : Build Unit :=
  changeOpen (popWhile fun n => !sort n)

/-- Whether an HTML element of a name is in scope. -/
@[inline] def inScope (stops : ElementName → Bool) (name : String) : Build Bool :=
  return hasInScope stops (·.isHtml name) (← get).openElements

/-- Whether an HTML element of a name is open. -/
def isOpenHtml (name : String) : Build Bool :=
  return (← get).openElements.any (·.isHtml name)

/-- Closes the elements whose end may be implied. -/
def implyEnds : Build Unit := changeOpen (popWhile (·.endMayBeImplied))

/-- Closes the elements whose end may be implied, but none of this name. -/
def implyEndsExcept (name : String) : Build Unit :=
  changeOpen (popWhile fun n => n.endMayBeImplied && !n.isHtml name)

/-- Closes the open paragraph, if one is in button scope. -/
def closeParagraph : Build Unit := do
  if ← inScope (·.stopsButtonScope) "p" then
    popThroughHtml "p"

/-! ### The formatting list -/

def changeFormatting (f : List FormatEntry → List FormatEntry) : Build Unit :=
  modify fun b => { b with formatting := f b.formatting }

def pushMarker : Build Unit := changeFormatting (.marker :: ·)

def clearToMarker : Build Unit := changeFormatting beforeMarker

/-! ### Placing nodes -/

/-- A place in the draft: at the end of a cell's children, or before a cell. -/
inductive Place where
  | into (cell : Nat)
  | before (cell : Nat)

/-- The place for what a table does not take: before the innermost table, or in the contents of the
template if one is further in. -/
def fosterPlace (d : Draft) (outermost : Nat) : List OpenElement → Place
  | [] => .into outermost
  | e :: outer =>
    if e.isHtml "template" then .into (d.inside e.cell)
    else if e.isHtml "table" then
      if (d.parent? e.cell).isSome then .before e.cell
      else match outer with
        | above :: _ => .into above.cell
        | [] => .into outermost
    else fosterPlace d outermost outer

/-- The cell of the outermost open element. -/
def outermost (b : Builder) : Nat :=
  match b.openElements.getLast? with
  | some e => e.cell
  | none => 0

/-- The place for new content of an element. -/
def placeIn (b : Builder) (target : OpenElement) : Place :=
  if b.fostering && target.name.isTablePart then fosterPlace b.draft (outermost b) b.openElements
  else .into (b.draft.inside target.cell)

/-- The place for new content. -/
def placeHere (b : Builder) : Place :=
  match b.openElements with
  | e :: _ => placeIn b e
  | [] => .into 0

def changeDraft (f : Draft → Draft) : Build Unit :=
  modify fun b => { b with draft := f b.draft }

def createCell (data : CellData) : Build Nat :=
  modifyGet fun b =>
    let (i, d) := b.draft.create data
    (i, { b with draft := d })

def putCell (place : Place) (cell : Nat) : Build Unit :=
  changeDraft fun d =>
    match place with
    | .into parent => d.append parent cell
    | .before sibling => d.insertBefore sibling cell

/-- Inserts text where content goes. -/
def insertText (s : String) : Build Unit := do
  let place := placeHere (← get)
  changeDraft fun d =>
    match place with
    | .into parent => d.appendText parent s
    | .before sibling => d.insertTextBefore sibling s

/-- Inserts a comment where content goes. -/
def insertComment (s : String) : Build Unit := do
  let place := placeHere (← get)
  let cell ← createCell (.comment s)
  putCell place cell

/-- Adds a comment at the end of a cell's children. -/
def appendComment (parent : Nat) (s : String) : Build Unit := do
  let cell ← createCell (.comment s)
  changeDraft (·.append parent cell)

/-! ### Elements -/

/-- The attributes of a tag as those of an HTML element. -/
def plainAttributes (t : Tag) : List MarkupAttribute :=
  t.attributes.map fun a => ⟨none, a.name, a.value⟩

/-- Whether the attributes of an annotation say that it holds HTML. -/
def saysHtml (attrs : List MarkupAttribute) : Bool :=
  attrs.any fun a =>
    a.space.isNone && a.localName == "encoding" &&
      (Text.sameAscii a.value "text/html" || Text.sameAscii a.value "application/xhtml+xml")

/-- A new element that is nowhere yet. A template gets a place for its contents. -/
def createElement (name : ElementName) (attrs : List MarkupAttribute) : Build OpenElement := do
  let contents ← if name.isHtml "template" then some <$> createCell .root else pure none
  let cell ← createCell (.element name attrs contents)
  return ⟨cell, name, name.isAnnotation && saysHtml attrs⟩

/-- Inserts an element where content goes, without opening it. -/
def insertClosed (name : ElementName) (attrs : List MarkupAttribute) : Build OpenElement := do
  let place := placeHere (← get)
  let e ← createElement name attrs
  putCell place e.cell
  return e

/-- Inserts an element where content goes and opens it. -/
def insertElement (name : ElementName) (attrs : List MarkupAttribute) : Build OpenElement := do
  let e ← insertClosed name attrs
  changeOpen (e :: ·)
  return e

/-- Inserts and opens the HTML element of a tag. -/
def insertTag (t : Tag) : Build OpenElement := insertElement (.html t.name) (plainAttributes t)

/-- Inserts and opens an HTML element that no tag asked for. -/
def insertImplied (name : String) : Build OpenElement := insertElement (.html name) []

/-- Inserts the HTML element of a tag that takes no content. -/
def insertEmpty (t : Tag) : Build OpenElement := insertClosed (.html t.name) (plainAttributes t)

/-- Inserts the element of a tag whose text is read in a way of its own. -/
def insertWithText (t : Tag) (how : TextMode) : Build Outcome := do
  let _ ← insertTag t
  modify fun b => { b with returnMode := b.mode, mode := .text, textMode := how }
  done

/-- Adds attributes of a tag that an element does not have yet. -/
def addAttributes (cell : Nat) (t : Tag) : Build Unit :=
  changeDraft (·.addAttributes cell (plainAttributes t))

/-- Whether an `input` is of type `hidden`. -/
def isHiddenInput (t : Tag) : Bool :=
  match t.attr "type" with
  | some v => Text.sameAscii v "hidden"
  | none => false

/-! ### The mode that the open elements call for -/

/-- The mode for an open `select`, by the elements around it. -/
def selectMode : List OpenElement → Mode
  | [] => .inSelect
  | e :: outer =>
    if e.isHtml "template" then .inSelect
    else if e.isHtml "table" then .inSelectInTable
    else selectMode outer

/-- The mode for a list of open elements. -/
def modeOf (templateMode : Mode) (hasHead : Bool) : List OpenElement → Mode
  | [] => .inBody
  | e :: outer =>
    let further := modeOf templateMode hasHead outer
    if e.name.vocabulary != .html then further
    else match e.name.localName with
      | "select" => selectMode outer
      | "td" => if outer.isEmpty then further else .inCell
      | "th" => if outer.isEmpty then further else .inCell
      | "tr" => .inRow
      | "tbody" => .inTableBody
      | "thead" => .inTableBody
      | "tfoot" => .inTableBody
      | "caption" => .inCaption
      | "colgroup" => .inColumnGroup
      | "table" => .inTable
      | "template" => templateMode
      | "head" => if outer.isEmpty then further else .inHead
      | "body" => .inBody
      | "frameset" => .inFrameset
      | "html" => if hasHead then .afterHead else .beforeHead
      | _ => further

/-- Sets the mode that the open elements call for. -/
def resetMode : Build Unit :=
  modify fun b =>
    { b with mode := modeOf (b.templateModes.headD .inBody) b.head.isSome b.openElements }

/-- Sets the mode that the open elements call for and hands a token to it. -/
def continueReset (t : Token) : Build Outcome := do
  resetMode
  return some t

end Html
end MarkupSearch
