/-
# Rules of foreign content

Within SVG and MathML, tags make elements of that vocabulary, except at the points where HTML may
stand. A start tag that is plainly HTML leads back out of the foreign elements. An end tag closes
its foreign element by its name in any letters; from the first HTML element outward it is taken by
the rules of the mode.

Key definitions: `Html.isForeign`, `Html.foreignRule`.
-/
import MarkupSearch.Html.Rules.Special

namespace MarkupSearch
namespace Html

/-- Whether a token that comes within this element is taken by the rules of foreign content. -/
def isForeignIn (e : OpenElement) (t : Token) : Bool :=
  if e.name.vocabulary = .html then false
  else match t with
    | .eof => false
    | .blank _ => takesText
    | .chars _ => takesText
    | .null => takesText
    | .start tag =>
      !(e.name.holdsMathText && !tag.isAnyOf ["mglyph", "malignmark"]) && !e.name.holdsHtml &&
        !(e.name.isAnnotation && (tag.name == "svg" || e.htmlAnnotation))
    | _ => true
where
  takesText : Bool := !e.name.holdsMathText && !e.name.holdsHtml && !e.htmlAnnotation

def isForeign (b : Builder) (t : Token) : Bool :=
  match b.openElements with
  | e :: _ => isForeignIn e t
  | [] => false

/-- Start tags that are plainly HTML. -/
def htmlOnlyTags : List String :=
  ["b", "big", "blockquote", "body", "br", "center", "code", "dd", "div", "dl", "dt", "em", "embed",
   "h1", "h2", "h3", "h4", "h5", "h6", "head", "hr", "i", "img", "li", "listing", "menu", "meta",
   "nobr", "ol", "p", "pre", "ruby", "s", "small", "span", "strong", "strike", "sub", "sup",
   "table", "tt", "u", "ul", "var"]

/-- Whether a start tag is plainly HTML. -/
def isHtmlOnly (tag : Tag) : Bool :=
  htmlOnlyTags.contains tag.name ||
    (tag.name == "font" &&
      ["color", "face", "size"].any fun name => (tag.attr name).isSome)

/-- Element names of SVG that are not in small letters throughout. -/
def svgTagNames : List String :=
  ["altGlyph", "altGlyphDef", "altGlyphItem", "animateColor", "animateMotion", "animateTransform",
   "clipPath", "feBlend", "feColorMatrix", "feComponentTransfer", "feComposite",
   "feConvolveMatrix", "feDiffuseLighting", "feDisplacementMap", "feDistantLight", "feDropShadow",
   "feFlood", "feFuncA", "feFuncB", "feFuncG", "feFuncR", "feGaussianBlur", "feImage", "feMerge",
   "feMergeNode", "feMorphology", "feOffset", "fePointLight", "feSpecularLighting", "feSpotLight",
   "feTile", "feTurbulence", "foreignObject", "glyphRef", "linearGradient", "radialGradient",
   "textPath"]

/-- Takes a token by the rules of the mode, whatever the innermost element is. -/
def modeRule (t : Token) : Build Outcome := do
  match (← get).mode with
  | .initial => initialRule t
  | .beforeHtml => beforeHtmlRule t
  | .beforeHead => beforeHeadRule t
  | .inHead => headRule t
  | .afterHead => afterHeadRule t
  | .inBody => bodyRule t
  | .text => textRule t
  | .inTable => tableRule t
  | .inTableText => tableTextRule t
  | .inCaption => captionRule t
  | .inColumnGroup => columnGroupRule t
  | .inTableBody => tableBodyRule t
  | .inRow => rowRule t
  | .inCell => cellRule t
  | .inSelect => selectRule t
  | .inSelectInTable => selectInTableRule t
  | .inTemplate => templateRule t
  | .afterBody => afterBodyRule t
  | .inFrameset => framesetRule t
  | .afterFrameset => afterFramesetRule t
  | .afterAfterBody => afterAfterBodyRule t
  | .afterAfterFrameset => afterAfterFramesetRule t

/-- Closes foreign elements until HTML may stand again, and takes the token by the mode. -/
def leaveForeign (t : Token) : Build Outcome := do
  popUntil fun n => n.vocabulary = .html || n.holdsMathText || n.holdsHtml
  modeRule t

/-- What an end tag does among foreign elements: the elements left when it closes one, or `none`
when an HTML element is met first. -/
def closeForeign (name : String) : List OpenElement → Option (List OpenElement)
  | [] => none
  | e :: outer =>
    if e.name.vocabulary = .html then none
    else if Text.asciiLowered e.name.localName == name then some outer
    else closeForeign name outer

def foreignRule (t : Token) : Build Outcome := do
  match t with
  | .null => insertText "\uFFFD"; done
  | .blank s => insertText s; done
  | .chars s =>
    noFrameset
    insertText s
    done
  | .comment s => insertComment s; done
  | .start tag =>
    if isHtmlOnly tag then leaveForeign t
    else
      match (← get).openElements with
      | e :: _ =>
        let v := e.name.vocabulary
        insertForeign v (if v = .svg then properName svgTagNames tag.name else tag.name) tag
      | [] => done
  | .close tag =>
    if tag.name == "br" || tag.name == "p" then leaveForeign t
    else
      match closeForeign tag.name (← get).openElements with
      | some outer =>
        changeOpen fun _ => outer
        done
      | none => modeRule t
  | _ => done

end Html
end MarkupSearch
