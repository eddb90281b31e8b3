/-
# Rules of other places

What is left are the text of an element that is read in a way of its own, selection lists, the
contents of templates, framesets, and what comes after the body or a frameset.

Key definitions: `Html.textRule`, `Html.selectRule`, `Html.templateRule`, `Html.framesetRule`,
`Html.afterBodyRule`.
-/
import MarkupSearch.Html.Rules.Table

namespace MarkupSearch
namespace Html

/-- The text of an element such as `script`, up to its end tag. -/
def textRule (t : Token) : Build Outcome := do
  match t with
  | .blank s => insertText s; done
  | .chars s => insertText s; done
  | .eof =>
    pop
    continueIn (← get).returnMode t
  | .close _ =>
    pop
    setMode (← get).returnMode
    done
  | _ => done

/-! ### Selection lists -/

/-- Closes the `select`, if it is in scope; whether it was. -/
def closeSelect : Build Bool := do
  if ← inScope (·.stopsSelectScope) "select" then
    popThroughHtml "select"
    resetMode
    return true
  else return false

def selectRule (t : Token) : Build Outcome := do
  match t with
  | .blank s => insertText s; done
  | .chars s => insertText s; done
  | .comment s => insertComment s; done
  | .start tag =>
    let name := tag.name
    if name == "html" then mergeHtml tag
    else if name == "option" then
      if ← currentIsHtml "option" then pop
      let _ ← insertTag tag
      done
    else if name == "optgroup" then
      if ← currentIsHtml "option" then pop
      if ← currentIsHtml "optgroup" then pop
      let _ ← insertTag tag
      done
    else if name == "hr" then
      if ← currentIsHtml "option" then pop
      if ← currentIsHtml "optgroup" then pop
      let _ ← insertEmpty tag
      done
    else if name == "select" then
      let _ ← closeSelect
      done
    else if ["input", "keygen", "textarea"].contains name then
      if ← closeSelect then return some t else done
    else if name == "script" || name == "template" then headStart tag
    else done
  | .close tag =>
    let name := tag.name
    if name == "optgroup" then
      match (← get).openElements with
      | e :: f :: _ =>
        if e.isHtml "option" && f.isHtml "optgroup" then pop
      | _ => pure ()
      if ← currentIsHtml "optgroup" then pop
      done
    else if name == "option" then
      if ← currentIsHtml "option" then pop
      done
    else if name == "select" then
      let _ ← closeSelect
      done
    else if name == "template" then closeTemplate
    else done
  | .eof => bodyRule t
  | _ => done

/-- Tags of a table that end a selection list within it. -/
def tableTags : List String := ["caption", "table", "tbody", "tfoot", "thead", "tr", "td", "th"]

def selectInTableRule (t : Token) : Build Outcome := do
  match t with
  | .start tag =>
    if tableTags.contains tag.name then
      popThroughHtml "select"
      continueReset t
    else selectRule t
  | .close tag =>
    if tableTags.contains tag.name then
      if ← inScope (·.stopsTableScope) tag.name then
        popThroughHtml "select"
        continueReset t
      else done
    else selectRule t
  | t => selectRule t

/-! ### Templates -/

/-- Goes over to the mode that a template's contents call for. -/
def templateMode (mode : Mode) (t : Token) : Build Outcome := do
  modify fun b => { b with templateModes := mode :: b.templateModes.drop 1 }
  continueIn mode t

def templateRule (t : Token) : Build Outcome := do
  match t with
  | .start tag =>
    let name := tag.name
    if headStartTags.contains name then headStart tag
    else if name == "caption" || name == "colgroup" || rowGroupTags.contains name then
      templateMode .inTable t
    else if name == "col" then templateMode .inColumnGroup t
    else if name == "tr" then templateMode .inTableBody t
    else if name == "td" || name == "th" then templateMode .inRow t
    else templateMode .inBody t
  | .close tag => if tag.name == "template" then closeTemplate else done
  | .eof => endDocument
  | t => bodyRule t

/-! ### Framesets -/

def framesetRule (t : Token) : Build Outcome := do
  match t with
  | .blank s => insertText s; done
  | .comment s => insertComment s; done
  | .start tag =>
    if tag.name == "html" then mergeHtml tag
    else if tag.name == "frameset" then
      let _ ← insertTag tag
      done
    else if tag.name == "frame" then
      let _ ← insertEmpty tag
      done
    else if tag.name == "noframes" then headStart tag
    else done
  | .close tag =>
    if tag.name == "frameset" && (← get).openElements.length > 1 then
      pop
      if !(← currentIsHtml "frameset") then setMode .afterFrameset
    done
  | _ => done

def afterFramesetRule (t : Token) : Build Outcome := do
  match t with
  | .blank s => insertText s; done
  | .comment s => insertComment s; done
  | .start tag =>
    if tag.name == "html" then mergeHtml tag
    else if tag.name == "noframes" then headStart tag
    else done
  | .close tag =>
    if tag.name == "html" then setMode .afterAfterFrameset
    done
  | _ => done

def afterAfterFramesetRule (t : Token) : Build Outcome := do
  match t with
  | .blank _ => bodyRule t
  | .comment s => appendComment 0 s; done
  | .start tag =>
    if tag.name == "html" then mergeHtml tag
    else if tag.name == "noframes" then headStart tag
    else done
  | _ => done

/-! ### After the body -/

def afterBodyRule (t : Token) : Build Outcome := do
  match t with
  | .blank _ => bodyRule t
  | .comment s => appendComment (outermost (← get)) s; done
  | .start tag => if tag.name == "html" then mergeHtml tag else continueIn .inBody t
  | .close tag =>
    if tag.name == "html" then
      setMode .afterAfterBody
      done
    else continueIn .inBody t
  | .eof => done
  | t => continueIn .inBody t

def afterAfterBodyRule (t : Token) : Build Outcome := do
  match t with
  | .blank _ => bodyRule t
  | .comment s => appendComment 0 s; done
  | .start tag => if tag.name == "html" then mergeHtml tag else continueIn .inBody t
  | .eof => done
  | t => continueIn .inBody t

end Html
end MarkupSearch
