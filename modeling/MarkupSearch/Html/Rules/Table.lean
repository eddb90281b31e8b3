/-
# Rules of tables

A table takes rows, row groups, columns and captions, and inserts the groups and rows that are left
out. What it does not take goes before the table (foster parenting), text only if it is more than
white space.

Key definitions: `Html.tableRule`, `Html.tableTextRule`, `Html.captionRule`, `Html.columnGroupRule`,
`Html.tableBodyRule`, `Html.rowRule`, `Html.cellRule`.
-/
import MarkupSearch.Html.Rules.Body

namespace MarkupSearch
namespace Html

def rowGroupTags : List String := ["tbody", "tfoot", "thead"]

/-- Start tags of the parts of a table. -/
def tablePartTags : List String :=
  ["caption", "col", "colgroup", "tbody", "td", "tfoot", "th", "thead", "tr"]

/-- Takes a token by the rules of the body, with what it brings put before the table. -/
def foster (t : Token) : Build Outcome := do
  modify fun b => { b with fostering := true }
  let out ← bodyRule t
  modify fun b => { b with fostering := false }
  return out

/-! ### In a table -/

/-- Gathers the text of a table, or places it at once when content goes elsewhere. -/
def tableText (t : Token) : Build Outcome := do
  if ← currentIs (·.isTablePart) then
    modify fun b => { b with returnMode := b.mode, mode := .inTableText, tableText := [] }
    return some t
  else foster t

def tableStart (tag : Tag) : Build Outcome := do
  let name := tag.name
  if name == "caption" then
    popUntil (·.isTableContext)
    pushMarker
    let _ ← insertTag tag
    setMode .inCaption
    done
  else if name == "colgroup" then
    popUntil (·.isTableContext)
    let _ ← insertTag tag
    setMode .inColumnGroup
    done
  else if name == "col" then
    popUntil (·.isTableContext)
    let _ ← insertImplied "colgroup"
    continueIn .inColumnGroup (.start tag)
  else if rowGroupTags.contains name then
    popUntil (·.isTableContext)
    let _ ← insertTag tag
    setMode .inTableBody
    done
  else if name == "td" || name == "th" || name == "tr" then
    popUntil (·.isTableContext)
    let _ ← insertImplied "tbody"
    continueIn .inTableBody (.start tag)
  else if name == "table" then
    if ← inScope (·.stopsTableScope) "table" then
      popThroughHtml "table"
      continueReset (.start tag)
    else done
  else if name == "style" || name == "script" || name == "template" then headStart tag
  else if name == "input" then
    if isHiddenInput tag then
      let _ ← insertEmpty tag
      done
    else foster (.start tag)
  else if name == "form" then
    if !(← isOpenHtml "template") && (← get).form.isNone then
      let e ← insertEmpty tag
      modify fun b => { b with form := some e.cell }
    done
  else foster (.start tag)

def tableEnd (tag : Tag) : Build Outcome := do
  let name := tag.name
  if name == "table" then
    if ← inScope (·.stopsTableScope) "table" then
      popThroughHtml "table"
      resetMode
    done
  else if name == "body" || name == "html" || tablePartTags.contains name then done
  else if name == "template" then closeTemplate
  else foster (.close tag)

def tableRule (t : Token) : Build Outcome := do
  match t with
  | .null => tableText t
  | .blank _ => tableText t
  | .chars _ => tableText t
  | .comment s => insertComment s; done
  | .start tag => tableStart tag
  | .close tag => tableEnd tag
  | t => bodyRule t

/-! ### The text of a table -/

/-- Places gathered text: in the table if it is white space throughout, before the table if not. -/
def placeTableText (texts : List Token) : Build Unit := do
  let allBlank := texts.all fun t =>
    match t with
    | .chars _ => false
    | _ => true
  texts.forM fun t => do
    if allBlank then
      match t with
      | .blank s => insertText s
      | _ => pure ()
    else
      let _ ← foster t

def tableTextRule (t : Token) : Build Outcome := do
  match t with
  | .null => done
  | .blank _ => modify fun b => { b with tableText := t :: b.tableText }; done
  | .chars _ => modify fun b => { b with tableText := t :: b.tableText }; done
  | t =>
    let b ← get
    set { b with tableText := [] }
    placeTableText b.tableText.reverse
    continueIn b.returnMode t

/-! ### Captions and columns -/

/-- Closes the caption, if one is open; whether it was. -/
def closeCaption : Build Bool := do
  if ← inScope (·.stopsTableScope) "caption" then
    implyEnds
    popThroughHtml "caption"
    clearToMarker
    return true
  else return false

def captionRule (t : Token) : Build Outcome := do
  match t with
  | .start tag =>
    if tablePartTags.contains tag.name then
      if ← closeCaption then continueIn .inTable t else done
    else bodyStart tag
  | .close tag =>
    if tag.name == "caption" then
      if ← closeCaption then setMode .inTable
      done
    else if tag.name == "table" then
      if ← closeCaption then continueIn .inTable t else done
    else if tag.name == "body" || tag.name == "html" || tablePartTags.contains tag.name then done
    else bodyEnd tag
  | t => bodyRule t

def columnGroupRule (t : Token) : Build Outcome := do
  let otherwise : Build Outcome := do
    if ← currentIsHtml "colgroup" then
      pop
      continueIn .inTable t
    else done
  match t with
  | .blank s => insertText s; done
  | .comment s => insertComment s; done
  | .start tag =>
    if tag.name == "html" then mergeHtml tag
    else if tag.name == "col" then
      let _ ← insertEmpty tag
      done
    else if tag.name == "template" then headStart tag
    else otherwise
  | .close tag =>
    if tag.name == "colgroup" then
      if ← currentIsHtml "colgroup" then
        pop
        setMode .inTable
      done
    else if tag.name == "col" then done
    else if tag.name == "template" then closeTemplate
    else otherwise
  | .eof => bodyRule t
  | _ => otherwise

/-! ### Row groups, rows and cells -/

/-- Closes the row group and hands the token to the rules of the table, if the group is in scope. -/
def leaveRowGroup (t : Token) : Build Outcome := do
  let sought := fun (e : OpenElement) => e.name.isAnyOf ["table", "tbody", "tfoot"]
  if hasInScope (·.stopsTableScope) sought (← get).openElements then
    popUntil (·.isTableBodyContext)
    pop
    continueIn .inTable t
  else done

def tableBodyRule (t : Token) : Build Outcome := do
  match t with
  | .start tag =>
    if tag.name == "tr" then
      popUntil (·.isTableBodyContext)
      let _ ← insertTag tag
      setMode .inRow
      done
    else if tag.name == "td" || tag.name == "th" then
      popUntil (·.isTableBodyContext)
      let _ ← insertImplied "tr"
      continueIn .inRow t
    else if tablePartTags.contains tag.name then leaveRowGroup t
    else tableStart tag
  | .close tag =>
    if rowGroupTags.contains tag.name then
      if ← inScope (·.stopsTableScope) tag.name then
        popUntil (·.isTableBodyContext)
        pop
        setMode .inTable
      done
    else if tag.name == "table" then leaveRowGroup t
    else if tag.name == "body" || tag.name == "html" || tablePartTags.contains tag.name then done
    else tableEnd tag
  | t => tableRule t

/-- Closes the row, if one is in scope; whether it was. -/
def closeRow : Build Bool := do
  if ← inScope (·.stopsTableScope) "tr" then
    popUntil (·.isTableRowContext)
    pop
    return true
  else return false

def rowRule (t : Token) : Build Outcome := do
  match t with
  | .start tag =>
    if tag.name == "td" || tag.name == "th" then
      popUntil (·.isTableRowContext)
      let _ ← insertTag tag
      pushMarker
      setMode .inCell
      done
    else if tablePartTags.contains tag.name then
      if ← closeRow then continueIn .inTableBody t else done
    else tableStart tag
  | .close tag =>
    if tag.name == "tr" then
      if ← closeRow then setMode .inTableBody
      done
    else if tag.name == "table" then
      if ← closeRow then continueIn .inTableBody t else done
    else if rowGroupTags.contains tag.name then
      if ← inScope (·.stopsTableScope) tag.name then
        if ← closeRow then continueIn .inTableBody t else done
      else done
    else if tag.name == "body" || tag.name == "html" || tablePartTags.contains tag.name then done
    else tableEnd tag
  | t => tableRule t

/-- Closes the cell. -/
def closeCell : Build Unit := do
  implyEnds
  changeOpen (popThrough (·.isCell))
  clearToMarker

def cellRule (t : Token) : Build Outcome := do
  match t with
  | .start tag =>
    if tablePartTags.contains tag.name then
      if hasInScope (·.stopsTableScope) (·.name.isCell) (← get).openElements then
        closeCell
        continueIn .inRow t
      else done
    else bodyStart tag
  | .close tag =>
    if tag.name == "td" || tag.name == "th" then
      if ← inScope (·.stopsTableScope) tag.name then
        implyEnds
        popThroughHtml tag.name
        clearToMarker
        setMode .inRow
      done
    else if ["body", "caption", "col", "colgroup", "html"].contains tag.name then done
    else if tag.name == "table" || tag.name == "tr" || rowGroupTags.contains tag.name then
      if ← inScope (·.stopsTableScope) tag.name then
        closeCell
        continueIn .inRow t
      else done
    else bodyEnd tag
  | t => bodyRule t

end Html
end MarkupSearch
