/-
# Rules of the body

Most of a document is built by these rules, and the modes of tables and templates fall back on them.
A block closes the paragraph it comes in, an end tag closes its element if that is in scope and the
elements within whose end may be implied, formatting goes on over the ends of blocks, and an end tag
that no rule speaks of closes its element unless a special one is in between.

Key definitions: `Html.bodyStart`, `Html.bodyEnd`, `Html.bodyRule`.
-/
import MarkupSearch.Html.Rules.Head

namespace MarkupSearch
namespace Html

def noFrameset : Build Unit := modify fun b => { b with framesetOk := false }

/-! ### Kinds of tags -/

def blockTags : List String :=
  ["address", "article", "aside", "blockquote", "center", "details", "dialog", "dir", "div", "dl",
   "fieldset", "figcaption", "figure", "footer", "header", "hgroup", "main", "menu", "nav", "ol",
   "p", "search", "section", "summary", "ul"]

/-- Blocks that an end tag closes; a paragraph has a rule of its own. -/
def blockEndTags : List String :=
  ["address", "article", "aside", "blockquote", "button", "center", "details", "dialog", "dir",
   "div", "dl", "fieldset", "figcaption", "figure", "footer", "header", "hgroup", "listing", "main",
   "menu", "nav", "ol", "pre", "search", "section", "summary", "ul"]

def headingTags : List String := ["h1", "h2", "h3", "h4", "h5", "h6"]

def formattingTags : List String :=
  ["b", "big", "code", "em", "font", "i", "s", "small", "strike", "strong", "tt", "u"]

def strayTags : List String :=
  ["caption", "col", "colgroup", "frame", "head", "tbody", "td", "tfoot", "th", "thead", "tr"]

/-! ### Foreign vocabularies -/

/-- Attribute names of SVG that are not in small letters throughout. -/
def svgAttributeNames : List String :=
  ["attributeName", "attributeType", "baseFrequency", "baseProfile", "calcMode", "clipPathUnits",
   "diffuseConstant", "edgeMode", "filterUnits", "glyphRef", "gradientTransform", "gradientUnits",
   "kernelMatrix", "kernelUnitLength", "keyPoints", "keySplines", "keyTimes", "lengthAdjust",
   "limitingConeAngle", "markerHeight", "markerUnits", "markerWidth", "maskContentUnits",
   "maskUnits", "numOctaves", "pathLength", "patternContentUnits", "patternTransform",
   "patternUnits", "pointsAtX", "pointsAtY", "pointsAtZ", "preserveAlpha", "preserveAspectRatio",
   "primitiveUnits", "refX", "refY", "repeatCount", "repeatDur", "requiredExtensions",
   "requiredFeatures", "specularConstant", "specularExponent", "spreadMethod", "startOffset",
   "stdDeviation", "stitchTiles", "surfaceScale", "systemLanguage", "tableValues", "targetX",
   "targetY", "textLength", "viewBox", "viewTarget", "xChannelSelector", "yChannelSelector",
   "zoomAndPan"]

/-- The name among these that is this one but for letter case. -/
def properName (names : List String) (name : String) : String :=
  (names.find? fun n => Text.asciiLowered n == name).getD name

/-- The attributes that have a prefix in foreign elements: the name as read, the prefix and the
local name. -/
def prefixedNames : List (String × String × String) :=
  [("xlink:actuate", "xlink", "actuate"), ("xlink:arcrole", "xlink", "arcrole"),
   ("xlink:href", "xlink", "href"), ("xlink:role", "xlink", "role"),
   ("xlink:show", "xlink", "show"), ("xlink:title", "xlink", "title"),
   ("xlink:type", "xlink", "type"), ("xml:base", "xml", "base"), ("xml:lang", "xml", "lang"),
   ("xml:space", "xml", "space"), ("xmlns", "", "xmlns"), ("xmlns:xlink", "xmlns", "xlink")]

/-- An attribute as that of an element of a vocabulary. -/
def foreignAttribute (v : Vocabulary) (a : Attribute) : MarkupAttribute :=
  match prefixedNames.lookup a.name with
  | some (p, localName) => ⟨some p, localName, a.value⟩
  | none =>
    let name := match v with
      | .svg => properName svgAttributeNames a.name
      | .mathml => properName ["definitionURL"] a.name
      | .html => a.name
    ⟨none, name, a.value⟩

/-- Inserts the element of a tag in a foreign vocabulary; it stays open unless the tag closes it. -/
def insertForeign (v : Vocabulary) (name : String) (tag : Tag) : Build Outcome := do
  let attrs := tag.attributes.map (foreignAttribute v)
  if tag.selfClosing then
    let _ ← insertClosed ⟨v, name⟩ attrs
    done
  else
    let _ ← insertElement ⟨v, name⟩ attrs
    done

/-! ### Start tags -/

/-- Handles a further `body` start tag: attributes that are new are added to the element. -/
def mergeBody (tag : Tag) : Build Outcome := do
  let b ← get
  match b.openElements.reverse with
  | _ :: e :: _ =>
    if e.isHtml "body" && !(← isOpenHtml "template") then
      noFrameset
      addAttributes e.cell tag
  | _ => pure ()
  done

/-- Handles a `frameset` start tag: as long as nothing else has come it replaces the body. -/
def replaceBody (tag : Tag) : Build Outcome := do
  let b ← get
  match b.openElements.reverse with
  | html :: body :: _ =>
    if b.framesetOk && body.isHtml "body" then
      changeDraft (·.detach body.cell)
      changeOpen fun _ => [html]
      let _ ← insertTag tag
      setMode .inFrameset
  | _ => pure ()
  done

/-- The name of the item that a new one of this name closes: the innermost of its kind, unless a
special element other than `address`, `div` and `p` is in between. -/
def itemToClose (name : String) : List OpenElement → Option String
  | [] => none
  | e :: outer =>
    let kinds := if name == "li" then ["li"] else ["dd", "dt"]
    if e.name.isAnyOf kinds then some e.name.localName
    else if e.name.stopsItem then none
    else itemToClose name outer

def startItem (tag : Tag) : Build Outcome := do
  noFrameset
  match itemToClose tag.name (← get).openElements with
  | some name =>
    implyEndsExcept name
    popThroughHtml name
  | none => pure ()
  closeParagraph
  let _ ← insertTag tag
  done

def startForm (tag : Tag) : Build Outcome := do
  let inTemplate ← isOpenHtml "template"
  if (← get).form.isSome && !inTemplate then done
  else
    closeParagraph
    let e ← insertTag tag
    if !inTemplate then
      modify fun b => { b with form := some e.cell }
    done

/-- Handles an `a` start tag: a link that is still open, or would go on, ends first. -/
def startLink (tag : Tag) : Build Outcome := do
  match (sinceMarker (← get).formatting).find? (·.isNamed "a") with
  | some (.element cell _) =>
    closeFormatting "a"
    changeFormatting (removeFormat cell)
    changeOpen (removeOpen cell)
  | _ => pure ()
  reopenFormatting
  insertFormatting tag
  done

def startSelect (tag : Tag) : Build Outcome := do
  reopenFormatting
  let _ ← insertTag tag
  modify fun b =>
    let within := [Mode.inTable, .inCaption, .inTableBody, .inRow, .inCell].contains b.mode
    { b with framesetOk := false, mode := if within then .inSelectInTable else .inSelect }
  done

/-- Handles a start tag in the body, once none of the rules for special places has taken it. -/
def bodyStart (tag : Tag) : Build Outcome := do
  let name := tag.name
  if name == "html" then mergeHtml tag
  else if headStartTags.contains name then headStart tag
  else if name == "body" then mergeBody tag
  else if name == "frameset" then replaceBody tag
  else if blockTags.contains name then
    closeParagraph
    let _ ← insertTag tag
    done
  else if headingTags.contains name then
    closeParagraph
    if ← currentIs (·.isHeading) then pop
    let _ ← insertTag tag
    done
  else if name == "pre" || name == "listing" then
    closeParagraph
    let _ ← insertTag tag
    modify fun b => { b with dropNewline := true, framesetOk := false }
    done
  else if name == "form" then startForm tag
  else if name == "li" || name == "dd" || name == "dt" then startItem tag
  else if name == "plaintext" then
    closeParagraph
    let _ ← insertTag tag
    modify fun b => { b with textMode := .plain }
    done
  else if name == "button" then
    if ← inScope (·.stopsScope) "button" then
      implyEnds
      popThroughHtml "button"
    reopenFormatting
    let _ ← insertTag tag
    noFrameset
    done
  else if name == "a" then startLink tag
  else if formattingTags.contains name then
    reopenFormatting
    insertFormatting tag
    done
  else if name == "nobr" then
    reopenFormatting
    if ← inScope (·.stopsScope) "nobr" then
      closeFormatting "nobr"
      reopenFormatting
    insertFormatting tag
    done
  else if name == "applet" || name == "marquee" || name == "object" then
    reopenFormatting
    let _ ← insertTag tag
    pushMarker
    noFrameset
    done
  else if name == "table" then
    if !(← get).oldLayout then closeParagraph
    let _ ← insertTag tag
    modify fun b => { b with framesetOk := false, mode := .inTable }
    done
  else if ["area", "br", "embed", "img", "keygen", "wbr", "input"].contains name then
    reopenFormatting
    let _ ← insertEmpty tag
    if !(name == "input" && isHiddenInput tag) then noFrameset
    done
  else if ["param", "source", "track"].contains name then
    let _ ← insertEmpty tag
    done
  else if name == "hr" then
    closeParagraph
    let _ ← insertEmpty tag
    noFrameset
    done
  else if name == "image" then
    reopenFormatting
    let _ ← insertEmpty { tag with name := "img" }
    noFrameset
    done
  else if name == "textarea" then
    modify fun b => { b with dropNewline := true, framesetOk := false }
    insertWithText tag .references
  else if name == "xmp" then
    closeParagraph
    reopenFormatting
    noFrameset
    insertWithText tag .raw
  else if name == "iframe" then
    noFrameset
    insertWithText tag .raw
  else if name == "noembed" || name == "noscript" then insertWithText tag .raw
  else if name == "select" then startSelect tag
  else if name == "optgroup" || name == "option" then
    if ← currentIsHtml "option" then pop
    reopenFormatting
    let _ ← insertTag tag
    done
  else if name == "rb" || name == "rtc" then
    if ← inScope (·.stopsScope) "ruby" then implyEnds
    let _ ← insertTag tag
    done
  else if name == "rp" || name == "rt" then
    if ← inScope (·.stopsScope) "ruby" then implyEndsExcept "rtc"
    let _ ← insertTag tag
    done
  else if name == "math" then insertForeign .mathml name tag
  else if name == "svg" then insertForeign .svg name tag
  else if strayTags.contains name then done
  else
    reopenFormatting
    let _ ← insertTag tag
    done

/-! ### End tags -/

def endForm : Build Outcome := do
  if ← isOpenHtml "template" then
    if ← inScope (·.stopsScope) "form" then
      implyEnds
      popThroughHtml "form"
  else
    let b ← get
    set { b with form := none }
    match b.form with
    | some cell =>
      if hasInScope (·.stopsScope) (·.cell = cell) b.openElements then
        implyEnds
        changeOpen (removeOpen cell)
    | none => pure ()
  done

/-- Closes an element and all within, if it is in scope, after implying the ends that may be. -/
def endInScope (stops : ElementName → Bool) (name : String) (imply : Build Unit) : Build Unit := do
  if ← inScope stops name then
    imply
    popThroughHtml name

def bodyEnd (tag : Tag) : Build Outcome := do
  let name := tag.name
  if name == "template" then closeTemplate
  else if name == "body" then
    if ← inScope (·.stopsScope) "body" then setMode .afterBody
    done
  else if name == "html" then
    if ← inScope (·.stopsScope) "body" then continueIn .afterBody (.close tag) else done
  else if blockEndTags.contains name then
    endInScope (·.stopsScope) name implyEnds
    done
  else if name == "form" then endForm
  else if name == "p" then
    if !(← inScope (·.stopsButtonScope) "p") then
      let _ ← insertImplied "p"
    closeParagraph
    done
  else if name == "li" then
    endInScope (·.stopsListScope) name (implyEndsExcept name)
    done
  else if name == "dd" || name == "dt" then
    endInScope (·.stopsScope) name (implyEndsExcept name)
    done
  else if headingTags.contains name then
    if hasInScope (·.stopsScope) (·.name.isHeading) (← get).openElements then
      implyEnds
      changeOpen (popThrough (·.isHeading))
    done
  else if name == "a" || name == "nobr" || formattingTags.contains name then
    closeFormatting name
    done
  else if name == "applet" || name == "marquee" || name == "object" then
    if ← inScope (·.stopsScope) name then
      implyEnds
      popThroughHtml name
      clearToMarker
    done
  else if name == "br" then bodyStart (.bare "br")
  else
    closeOther name
    done

/-! ### The mode -/

/-- Ends the document: a template that is still open is closed first. -/
def endDocument : Build Outcome := do
  if ← isOpenHtml "template" then
    leaveTemplate
    return some .eof
  done

def bodyRule (t : Token) : Build Outcome := do
  match t with
  | .null => done
  | .blank s =>
    reopenFormatting
    insertText s
    done
  | .chars s =>
    reopenFormatting
    noFrameset
    insertText s
    done
  | .comment s => insertComment s; done
  | .start tag => bodyStart tag
  | .close tag => bodyEnd tag
  | .eof => if (← get).templateModes.isEmpty then done else endDocument
  | .doctype _ => done
  | .fault => done

end Html
end MarkupSearch
