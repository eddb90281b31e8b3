/-
# Names of elements

An element belongs to one of three vocabularies and has a local name in it. The rules for building a
document speak of sets of such names: where a look through the open elements stops, which end tags
may be left out, which elements take content of their own kind.

Key definitions: `Html.Vocabulary`, `Html.ElementName`, `Html.ElementName.isSpecial`.
-/

namespace MarkupSearch
namespace Html

inductive Vocabulary where
  | html
  | mathml
  | svg
deriving DecidableEq, Repr

structure ElementName where
  vocabulary : Vocabulary
  localName : String
deriving DecidableEq, Repr

namespace ElementName

def html (name : String) : ElementName := ⟨.html, name⟩

/-- Whether this is the HTML element of a name. -/
@[inline] def isHtml (n : ElementName) (name : String) : Bool :=
  n.vocabulary = .html && n.localName == name

/-- Whether this is one of the HTML elements of these names. -/
@[inline] def isAnyOf (n : ElementName) (names : List String) : Bool :=
  n.vocabulary = .html && names.contains n.localName

/-! ### Integration points -/

/-- MathML elements that hold text. -/
def holdsMathText (n : ElementName) : Bool :=
  n.vocabulary = .mathml && ["mi", "mo", "mn", "ms", "mtext"].contains n.localName

/-- SVG elements that hold HTML. -/
def holdsHtml (n : ElementName) : Bool :=
  n.vocabulary = .svg && ["foreignObject", "desc", "title"].contains n.localName

def isAnnotation (n : ElementName) : Bool :=
  n.vocabulary = .mathml && n.localName == "annotation-xml"

/-! ### Where a look through the open elements stops -/

def stopsScope (n : ElementName) : Bool :=
  n.isAnyOf ["applet", "caption", "html", "table", "td", "th", "marquee", "object", "template"] ||
    n.holdsMathText || n.holdsHtml

def stopsListScope (n : ElementName) : Bool := n.stopsScope || n.isAnyOf ["ol", "ul"]

def stopsButtonScope (n : ElementName) : Bool := n.stopsScope || n.isHtml "button"

def stopsTableScope (n : ElementName) : Bool := n.isAnyOf ["html", "table", "template"]

def stopsSelectScope (n : ElementName) : Bool := !n.isAnyOf ["optgroup", "option"]

def isTableContext (n : ElementName) : Bool := n.isAnyOf ["html", "table", "template"]

def isTableBodyContext (n : ElementName) : Bool :=
  n.isAnyOf ["tbody", "tfoot", "thead", "template", "html"]

def isTableRowContext (n : ElementName) : Bool := n.isAnyOf ["tr", "template", "html"]

/-! ### Elements of one kind -/

/-- Elements whose end tag may be left out. -/
def endMayBeImplied (n : ElementName) : Bool :=
  n.isAnyOf ["dd", "dt", "li", "option", "optgroup", "p", "rb", "rp", "rt", "rtc"]

/-- Elements whose end tag may be left out at the end of a template. -/
def endMayBeImpliedThroughout (n : ElementName) : Bool :=
  n.endMayBeImplied ||
    n.isAnyOf ["caption", "colgroup", "tbody", "td", "tfoot", "th", "thead", "tr"]

def isHeading (n : ElementName) : Bool := n.isAnyOf ["h1", "h2", "h3", "h4", "h5", "h6"]

def isCell (n : ElementName) : Bool := n.isAnyOf ["td", "th"]

/-- Elements that do not take text or other elements of the body directly. -/
def isTablePart (n : ElementName) : Bool := n.isAnyOf ["table", "tbody", "tfoot", "thead", "tr"]

/-- The names of the special elements. -/
def specialNames : List String :=
  ["address", "applet", "area", "article", "aside", "base", "basefont", "bgsound", "blockquote",
   "body", "br", "button", "caption", "center", "col", "colgroup", "dd", "details", "dir", "div",
   "dl", "dt", "embed", "fieldset", "figcaption", "figure", "footer", "form", "frame", "frameset",
   "h1", "h2", "h3", "h4", "h5", "h6", "head", "header", "hgroup", "hr", "html", "iframe", "img",
   "input", "isindex", "li", "link", "listing", "main", "marquee", "menu", "meta", "nav", "noembed",
   "noframes", "noscript", "object", "ol", "p", "param", "plaintext", "pre", "script", "section",
   "select", "source", "style", "summary", "table", "tbody", "td", "template", "textarea", "tfoot",
   "th", "thead", "title", "tr", "track", "ul", "wbr", "xmp"]

/-- Elements that the end tag of another one does not reach through. -/
def isSpecial (n : ElementName) : Bool := n.isAnyOf specialNames

/-- Special elements that the start of a list item does not look through. -/
def stopsItem (n : ElementName) : Bool := n.isSpecial && !n.isAnyOf ["address", "div", "p"]

end ElementName
end Html
end MarkupSearch
