/-
# Loading pages

A loader holds one page as an arena. Loading reads a source to its end, reads the text as HTML and
puts the document in place of the page before. When the source cannot be read the page before stays.

Key definitions: `Loader`, `Loader.loadWith`, `Loader.load`, `Loader.loadText`.
-/
import MarkupSearch.Html.Reader
import MarkupSearch.Import
import MarkupSearch.Source

namespace MarkupSearch

structure Loader where
  /-- Texts of white space only are left out. -/
  dropBlankText : Bool
  arena : Arena

namespace Loader

/-- A loader without a page. -/
def new (dropBlankText : Bool) : Loader := ⟨dropBlankText, .empty⟩

/-- Puts a document in place of what the arena holds. -/
def replace (dropBlankText : Bool) (d : Document) : Edit NodeId := do
  Edit.clear
  let root ← Import.document dropBlankText d
  Edit.setRoot root
  return root

/-- Loads the document that a reader of blocks makes of a source; the root's id. -/
def loadWith (l : Loader) (read : List (List UInt8) → Document) (s : Source) :
    Except Failure NodeId × Loader :=
  match s.readAll with
  | .error e => (.error e, l)
  | .ok blocks =>
    let (out, a) := (replace l.dropBlankText (read blocks)).outcome l.arena
    (out, { l with arena := a })

/-- Loads the page that a source gives; the root's id. -/
def load (l : Loader) (s : Source) : Except Failure NodeId × Loader :=
  l.loadWith Html.readBlocks s

/-- Loads a page from its text. -/
def loadText (l : Loader) (s : String) : Except Failure NodeId × Loader := l.load (.ofText s)

end Loader
end MarkupSearch
