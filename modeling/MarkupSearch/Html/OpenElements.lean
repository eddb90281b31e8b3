/-
# Open elements and formatting elements

Two lists steer the building of a document. The open elements are those whose end has not been
reached, the innermost first. The formatting list holds the formatting elements that are to go on
after an element around them has ended, the latest first, with a marker at each table cell and
the like that formatting does not cross.

Key definitions: `Html.OpenElement`, `Html.hasInScope`, `Html.popThrough`, `Html.FormatEntry`,
`Html.makeRoom`.
-/
import MarkupSearch.Html.Name
import MarkupSearch.Html.Token

namespace MarkupSearch
namespace Html

structure OpenElement where
  cell : Nat
  name : ElementName
  /-- An annotation whose encoding says that it holds HTML. -/
  htmlAnnotation : Bool
deriving DecidableEq, Repr

def OpenElement.isHtml (e : OpenElement) (name : String) : Bool := e.name.isHtml name

/-- Whether a sought element is met before one at which the look outward stops. The sought one
itself may be such an element. -/
@[specialize] def hasInScope (stops : ElementName → Bool) (sought : OpenElement → Bool) :
    List OpenElement → Bool
  | [] => false
  | e :: outer => sought e || (!stops e.name && hasInScope stops sought outer)

/-- Closes elements through the first sought one. -/
def popThrough (sought : ElementName → Bool) : List OpenElement → List OpenElement
  | [] => []
  | e :: outer => if sought e.name then outer else popThrough sought outer

/-- Closes elements as long as they are of this sort. -/
def popWhile (sort : ElementName → Bool) (es : List OpenElement) : List OpenElement :=
  es.dropWhile fun e => sort e.name

/-- The elements left when an end tag of this name closes its element and those within; `none` when
a special element stands between. -/
def closeBy (name : String) : List OpenElement → Option (List OpenElement)
  | [] => none
  | e :: outer =>
    if e.isHtml name then some outer
    else if e.name.isSpecial then none
    else closeBy name outer

/-- Replaces an open element by another. -/
def replaceOpen (cell : Nat) (new : OpenElement) (es : List OpenElement) : List OpenElement :=
  es.map fun e => if e.cell = cell then new else e

/-- Takes an element out of the open ones wherever it stands. -/
def removeOpen (cell : Nat) (es : List OpenElement) : List OpenElement :=
  es.filter fun e => e.cell != cell

def isOpen (cell : Nat) (es : List OpenElement) : Bool := es.any fun e => e.cell = cell

/-! ### The formatting list -/

inductive FormatEntry where
  | marker
  | element (cell : Nat) (tag : Tag)
deriving DecidableEq, Repr

namespace FormatEntry

def isMarker : FormatEntry → Bool
  | marker => true
  | element _ _ => false

/-- Whether the entry is for this cell. -/
def isFor (cell : Nat) : FormatEntry → Bool
  | marker => false
  | element c _ => c == cell

/-- Whether the entry is for an element of this name. -/
def isNamed (name : String) : FormatEntry → Bool
  | marker => false
  | element _ t => t.name == name

/-- Whether the entry's tag is like this one. -/
def isLike (tag : Tag) : FormatEntry → Bool
  | marker => false
  | element _ t => t.isLike tag

end FormatEntry

/-- The entries down to the last marker. -/
def sinceMarker (es : List FormatEntry) : List FormatEntry := es.takeWhile fun e => !e.isMarker

/-- The entries before the last marker. -/
def beforeMarker (es : List FormatEntry) : List FormatEntry :=
  (es.dropWhile fun e => !e.isMarker).drop 1

def removeFormat (cell : Nat) (es : List FormatEntry) : List FormatEntry :=
  es.filter fun e => !e.isFor cell

def replaceFormat (cell : Nat) (new : FormatEntry) (es : List FormatEntry) : List FormatEntry :=
  es.map fun e => if e.isFor cell then new else e

/-- Puts an entry right after (later than) that of a cell. -/
def insertFormatAfter (cell : Nat) (new : FormatEntry) : List FormatEntry → List FormatEntry
  | [] => []
  | e :: es => if e.isFor cell then new :: e :: es else e :: insertFormatAfter cell new es

/-- Takes out the earliest entry like a tag when there are three or more since the marker. -/
def makeRoom (tag : Tag) (es : List FormatEntry) : List FormatEntry :=
  let like := (sinceMarker es).filter (·.isLike tag)
  match like.getLast? with
  | some (.element cell _) => if like.length ≥ 3 then removeFormat cell es else es
  | _ => es

end Html
end MarkupSearch
