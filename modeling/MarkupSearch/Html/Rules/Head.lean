/-
# Rules up to the body

Before the body come the document type, the `html` element and the `head`. Each of these modes takes
what belongs to it; anything else makes it insert the element that is missing and hand the token on.

Key definitions: `Html.initialRule`, `Html.beforeHtmlRule`, `Html.beforeHeadRule`, `Html.headRule`,
`Html.afterHeadRule`.
-/
import MarkupSearch.Html.Formatting

namespace MarkupSearch
namespace Html

/-! ### Document types of old pages -/

/-- Public identifiers, in small letters, of pages laid out by the rules for old ones. -/
def oldPublicIds : List String :=
  ["-//w3o//dtd w3 html strict 3.0//en//", "-/w3c/dtd html 4.0 transitional/en", "html"]

/-- Beginnings of such identifiers. -/
def oldPublicStarts : List String :=
  ["-//advasoft ltd//dtd html 3.0 aswedit + extensions//",
   "-//as//dtd html 3.0 aswedit + extensions//", "-//ietf//dtd html 2.0 level 1//",
   "-//ietf//dtd html 2.0 level 2//", "-//ietf//dtd html 2.0 strict level 1//",
   "-//ietf//dtd html 2.0 strict level 2//", "-//ietf//dtd html 2.0 strict//",
   "-//ietf//dtd html 2.0//", "-//ietf//dtd html 2.1e//", "-//ietf//dtd html 3.0//",
   "-//ietf//dtd html 3.2 final//", "-//ietf//dtd html 3.2//", "-//ietf//dtd html 3//",
   "-//ietf//dtd html level 0//", "-//ietf//dtd html level 1//", "-//ietf//dtd html level 2//",
   "-//ietf//dtd html level 3//", "-//ietf//dtd html strict level 0//",
   "-//ietf//dtd html strict level 1//", "-//ietf//dtd html strict level 2//",
   "-//ietf//dtd html strict level 3//", "-//ietf//dtd html strict//", "-//ietf//dtd html//",
   "-//metrius//dtd metrius presentational//",
   "-//microsoft//dtd internet explorer 2.0 html strict//",
   "-//microsoft//dtd internet explorer 2.0 html//",
   "-//microsoft//dtd internet explorer 2.0 tables//",
   "-//microsoft//dtd internet explorer 3.0 html strict//",
   "-//microsoft//dtd internet explorer 3.0 html//",
   "-//microsoft//dtd internet explorer 3.0 tables//", "-//netscape comm. corp.//dtd html//",
   "-//netscape comm. corp.//dtd strict html//", "-//o'reilly and associates//dtd html 2.0//",
   "-//o'reilly and associates//dtd html extended 1.0//",
   "-//o'reilly and associates//dtd html extended relaxed 1.0//",
   "-//softquad software//dtd hotmetal pro 6.0::19990601::extensions to html 4.0//",
   "-//softquad//dtd hotmetal pro 4.0::19971010::extensions to html 4.0//",
   "-//spyglass//dtd html 2.0 extended//", "-//sq//dtd html 2.0 hotmetal + extensions//",
   "-//sun microsystems corp.//dtd hotjava html//",
   "-//sun microsystems corp.//dtd hotjava strict html//", "-//w3c//dtd html 3 1995-03-24//",
   "-//w3c//dtd html 3.2 draft//", "-//w3c//dtd html 3.2 final//", "-//w3c//dtd html 3.2//",
   "-//w3c//dtd html 3.2s draft//", "-//w3c//dtd html 4.0 frameset//",
   "-//w3c//dtd html 4.0 transitional//", "-//w3c//dtd html experimental 19960712//",
   "-//w3c//dtd html experimental 970421//", "-//w3c//dtd w3 html//",
   "-//w3o//dtd w3 html 3.0//", "-//webtechs//dtd mozilla html 2.0//",
   "-//webtechs//dtd mozilla html//"]

/-- Beginnings of identifiers that are such only without a system identifier. -/
def oldStartsAlone : List String :=
  ["-//w3c//dtd html 4.01 frameset//", "-//w3c//dtd html 4.01 transitional//"]

/-- The system identifier, in small letters, of a page laid out so whatever its public one. -/
def oldSystemId : String :=
  "/".intercalate ["http:", "", "www.ibm.com", "data", "dtd", "v11", "ibmxhtml1-transitional.dtd"]

/-- Whether a document type asks for the layout of old pages. -/
def Doctype.isOld (d : Doctype) : Bool :=
  let begins := fun (id : String) (starts : List String) =>
    starts.any fun s => s.toList.isPrefixOf id.toList
  d.broken || d.name != some "html" ||
    d.systemId.map Text.asciiLowered == some oldSystemId ||
    match d.publicId.map Text.asciiLowered with
    | none => false
    | some id =>
      oldPublicIds.contains id || begins id oldPublicStarts ||
        (d.systemId.isNone && begins id oldStartsAlone)

/-! ### Before the head -/

def initialRule (t : Token) : Build Outcome := do
  match t with
  | .blank _ => done
  | .comment s => appendComment 0 s; done
  | .doctype d =>
    let cell ← createCell (.doctype (d.name.getD ""))
    putCell (.into 0) cell
    modify fun b => { b with oldLayout := d.isOld, mode := .beforeHtml }
    done
  | t =>
    modify fun b => { b with oldLayout := true }
    continueIn .beforeHtml t

def beforeHtmlRule (t : Token) : Build Outcome := do
  let inserted (attrs : List MarkupAttribute) : Build Unit := do
    let _ ← insertElement (.html "html") attrs
  match t with
  | .blank _ => done
  | .comment s => appendComment 0 s; done
  | .start tag =>
    if tag.name == "html" then
      inserted (plainAttributes tag)
      setMode .beforeHead
      done
    else
      inserted []
      continueIn .beforeHead t
  | .close tag =>
    if tag.isAnyOf ["head", "body", "html", "br"] then
      inserted []
      continueIn .beforeHead t
    else done
  | t =>
    inserted []
    continueIn .beforeHead t

/-- Handles a further `html` start tag: attributes that are new are added to the element. -/
def mergeHtml (tag : Tag) : Build Outcome := do
  if !(← isOpenHtml "template") then
    addAttributes (outermost (← get)) tag
  done

/-- Inserts the `head` and notes it. -/
def insertHead (attrs : List MarkupAttribute) : Build Unit := do
  let e ← insertElement (.html "head") attrs
  modify fun b => { b with head := some e.cell }

def beforeHeadRule (t : Token) : Build Outcome := do
  match t with
  | .blank _ => done
  | .comment s => insertComment s; done
  | .start tag =>
    if tag.name == "html" then mergeHtml tag
    else if tag.name == "head" then
      insertHead (plainAttributes tag)
      setMode .inHead
      done
    else
      insertHead []
      continueIn .inHead t
  | .close tag =>
    if tag.isAnyOf ["head", "body", "html", "br"] then
      insertHead []
      continueIn .inHead t
    else done
  | t =>
    insertHead []
    continueIn .inHead t

/-! ### In the head -/

def openTemplate (tag : Tag) : Build Outcome := do
  let _ ← insertTag tag
  pushMarker
  modify fun b =>
    { b with
      framesetOk := false
      mode := .inTemplate
      templateModes := .inTemplate :: b.templateModes }
  done

/-- Closes the innermost template and goes back to the mode around it. -/
def leaveTemplate : Build Unit := do
  popThroughHtml "template"
  clearToMarker
  modify fun b => { b with templateModes := b.templateModes.drop 1 }
  resetMode

def closeTemplate : Build Outcome := do
  if ← isOpenHtml "template" then
    changeOpen (popWhile (·.endMayBeImpliedThroughout))
    leaveTemplate
  done

/-- The start tags that the rules of the head take wherever they come. -/
def headStartTags : List String :=
  ["base", "basefont", "bgsound", "link", "meta", "noframes", "script", "style", "template",
   "title"]

def headStart (tag : Tag) : Build Outcome := do
  if tag.isAnyOf ["base", "basefont", "bgsound", "link", "meta"] then
    let _ ← insertEmpty tag
    done
  else if tag.name == "title" then insertWithText tag .references
  else if tag.isAnyOf ["noframes", "style", "noscript"] then insertWithText tag .raw
  else if tag.name == "script" then insertWithText tag .script
  else openTemplate tag

def headRule (t : Token) : Build Outcome := do
  let otherwise : Build Outcome := do
    pop
    continueIn .afterHead t
  match t with
  | .blank s => insertText s; done
  | .comment s => insertComment s; done
  | .start tag =>
    if tag.name == "html" then mergeHtml tag
    else if headStartTags.contains tag.name || tag.name == "noscript" then headStart tag
    else if tag.name == "head" then done
    else otherwise
  | .close tag =>
    if tag.name == "head" then
      pop
      setMode .afterHead
      done
    else if tag.isAnyOf ["body", "html", "br"] then otherwise
    else if tag.name == "template" then closeTemplate
    else done
  | _ => otherwise

/-! ### After the head -/

/-- Takes a start tag of the head after its end: it goes into the head all the same. -/
def headStartAfterwards (tag : Tag) : Build Outcome := do
  match (← get).head with
  | none => headStart tag
  | some cell =>
    changeOpen (⟨cell, .html "head", false⟩ :: ·)
    let out ← headStart tag
    changeOpen (removeOpen cell)
    return out

def afterHeadRule (t : Token) : Build Outcome := do
  let otherwise : Build Outcome := do
    let _ ← insertImplied "body"
    continueIn .inBody t
  match t with
  | .blank s => insertText s; done
  | .comment s => insertComment s; done
  | .start tag =>
    if tag.name == "html" then mergeHtml tag
    else if tag.name == "body" then
      let _ ← insertTag tag
      modify fun b => { b with framesetOk := false, mode := .inBody }
      done
    else if tag.name == "frameset" then
      let _ ← insertTag tag
      setMode .inFrameset
      done
    else if headStartTags.contains tag.name then headStartAfterwards tag
    else if tag.name == "head" then done
    else otherwise
  | .close tag =>
    if tag.name == "template" then closeTemplate
    else if tag.isAnyOf ["body", "html", "br"] then otherwise
    else done
  | _ => otherwise

end Html
end MarkupSearch
