/-
# Formatting elements

Formatting goes on over the ends of the elements around it: before new content, the formatting
elements that were closed from outside are opened again. The end tag of a formatting element that
is open further out closes it where it stands and opens it again within the block that is still
open, so that elements nest after all; this takes at most eight rounds.

Key definitions: `Html.reopenFormatting`, `Html.insertFormatting`, `Html.closeFormatting`.
-/
import MarkupSearch.Html.Builder

namespace MarkupSearch
namespace Html

/-- Opens an element again for each of these entries, earliest first; the new entries, latest
first. -/
def reopenEntries (done : List FormatEntry) : List FormatEntry → Build (List FormatEntry)
  | [] => return done
  | .marker :: es => reopenEntries (.marker :: done) es
  | .element _ tag :: es => do
    let e ← insertTag tag
    reopenEntries (.element e.cell tag :: done) es

/-- Whether an entry's element has been closed. -/
def isClosed (es : List OpenElement) : FormatEntry → Bool
  | .marker => false
  | .element cell _ => !isOpen cell es

/-- Opens again the formatting elements that have been closed since the last one still open. -/
def reopenFormatting : Build Unit := do
  let b ← get
  let closed := b.formatting.takeWhile (isClosed b.openElements)
  if !closed.isEmpty then
    let rest := b.formatting.drop closed.length
    let reopened ← reopenEntries rest closed.reverse
    changeFormatting fun _ => reopened

/-- Inserts a formatting element and notes it in the formatting list. -/
def insertFormatting (t : Tag) : Build Unit := do
  changeFormatting (makeRoom t)
  let e ← insertTag t
  changeFormatting (.element e.cell t :: ·)

/-- Handles an end tag that no other rule speaks of: it closes its element and all within, unless a
special element is among those. -/
def closeOther (name : String) : Build Unit := do
  match closeBy name (← get).openElements with
  | some outer => changeOpen fun _ => outer
  | none => return ()

/-! ### Closing a formatting element around open blocks -/

/-- Where a formatting element goes in the formatting list. -/
inductive Bookmark where
  /-- In place of the entry of this cell. -/
  | inPlaceOf (cell : Nat)
  /-- Right after the entry of this cell. -/
  | after (cell : Nat)

/-- Takes the elements between the block and the formatting element, innermost first. Those in
the formatting list, up to three, are made anew around what has been gathered; the others are
closed. Returns the outermost gathered cell and the bookmark. -/
def rebuildBetween (block : Nat) : Nat → List OpenElement → Nat → Bookmark →
    Build (Nat × Bookmark)
  | _, [], last, mark => return (last, mark)
  | count, e :: outer, last, mark => do
    let entry := (← get).formatting.find? (·.isFor e.cell)
    match entry with
    | some (.element _ tag) =>
      if count ≥ 3 then
        changeFormatting (removeFormat e.cell)
        changeOpen (removeOpen e.cell)
        rebuildBetween block (count + 1) outer last mark
      else
        let new ← createElement (.html tag.name) (plainAttributes tag)
        changeOpen (replaceOpen e.cell new)
        changeFormatting (replaceFormat e.cell (.element new.cell tag))
        let mark := if last = block then .after new.cell else mark
        changeDraft fun d => (d.detach last).append new.cell last
        rebuildBetween block (count + 1) outer new.cell mark
    | _ =>
      changeOpen (removeOpen e.cell)
      rebuildBetween block (count + 1) outer last mark

/-- Puts an element right inside another one among the open elements. -/
def openInside (cell : Nat) (new : OpenElement) : List OpenElement → List OpenElement
  | [] => []
  | e :: outer => if e.cell = cell then new :: e :: outer else e :: openInside cell new outer

/-- Moves the formatting element `fmt` into the block that it is open around. `within` are the
elements inside `fmt`, innermost first; `ancestor` is the one around it. -/
def moveIntoBlock (fmt : Nat) (tag : Tag) (within : List OpenElement)
    (block ancestor : OpenElement) : Build Unit := do
  let between := (within.reverse.takeWhile fun e => e.cell != block.cell).reverse
  let (last, mark) ← rebuildBetween block.cell 0 between block.cell (.inPlaceOf fmt)
  changeDraft (·.detach last)
  let place := placeIn (← get) ancestor
  putCell place last
  let new ← createElement (.html tag.name) (plainAttributes tag)
  changeDraft fun d => (d.moveChildren block.cell new.cell).append block.cell new.cell
  let entry := FormatEntry.element new.cell tag
  changeFormatting fun es =>
    match mark with
    | .inPlaceOf cell => replaceFormat cell entry es
    | .after cell => removeFormat fmt (insertFormatAfter cell entry es)
  changeOpen fun es => openInside block.cell new (removeOpen fmt es)

/-- One round of closing a formatting element; whether another round follows. -/
def closeFormattingRound (name : String) : Build Bool := do
  let b ← get
  match (sinceMarker b.formatting).find? (·.isNamed name) with
  | some (.element fmt tag) =>
    if !isOpen fmt b.openElements then
      changeFormatting (removeFormat fmt)
      return false
    if !hasInScope (·.stopsScope) (·.cell = fmt) b.openElements then
      return false
    let within := b.openElements.takeWhile (·.cell ≠ fmt)
    let around := b.openElements.drop (within.length + 1)
    match within.reverse.find? (·.name.isSpecial), around with
    | some block, ancestor :: _ =>
      moveIntoBlock fmt tag within block ancestor
      return true
    | _, _ =>
      changeOpen fun _ => around
      changeFormatting (removeFormat fmt)
      return false
  | _ =>
    closeOther name
    return false

/-- Rounds of closing a formatting element, at most so many. -/
def closeFormattingRounds (name : String) : Nat → Build Unit
  | 0 => return ()
  | n + 1 => do
    if ← closeFormattingRound name then
      closeFormattingRounds name n

/-- Handles the end tag of a formatting element. -/
def closeFormatting (name : String) : Build Unit := do
  let b ← get
  match b.openElements with
  | e :: outer =>
    if e.isHtml name && !b.formatting.any (·.isFor e.cell) then
      changeOpen fun _ => outer
    else closeFormattingRounds name 8
  | [] => return ()

end Html
end MarkupSearch
