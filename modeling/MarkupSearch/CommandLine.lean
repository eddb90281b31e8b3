/-
# The command line

The command takes a selector and the path of a page, both optional: without a path it looks into a
small page of its own. It lists the matches in the order they are found, each with its markup and
its text. How a page is read as a document and how a path is opened are given to it.

Key definitions: `CommandLine.report`, `CommandLine.onPage`, `CommandLine.runWith`,
`CommandLine.run`.
-/
import MarkupSearch.Arena.Walk
import MarkupSearch.Loader
import MarkupSearch.Render
import MarkupSearch.Search
import MarkupSearch.Text.Display

namespace MarkupSearch
namespace CommandLine

/-- The selector when none is given. -/
def defaultSelector : String := ".one script"

/-- The page when none is given. -/
def samplePage : String :=
  "<div class=\"one two\">\n  <script>alert(1)</script>\n  <script>alert(2)</script>\n</div>"

/-- What a run leaves: the exit code and what it has printed. -/
structure Outcome where
  code : Nat
  output : String
deriving DecidableEq, Repr

/-- Lists matches after what has been printed, up to the first that fails. -/
def listMatches (a : Arena) (printed : String) : List NodeId → Outcome
  | [] => ⟨0, printed⟩
  | id :: ids =>
    match a.render {} id with
    | .error _ => ⟨1, printed⟩
    | .ok markup =>
      let printed := printed ++ "#" ++ toString id.toNat ++ ": " ++ markup ++ "\n"
      match a.textContent id with
      | .error _ => ⟨1, printed⟩
      | .ok text => listMatches a (printed ++ "    text: " ++ Text.display text ++ "\n") ids

/-- The report on one selector. -/
def report (a : Arena) (root : NodeId) (selector : String) : Outcome :=
  let found := a.query (some root) selector
  listMatches a (toString found.length ++ " match(es) for " ++ Text.display selector ++ "\n") found

/-- The report on the document that a reader of blocks makes of a page, if the source of the page
could be opened. -/
def onPage (read : List (List UInt8) → Document) (selector : String) (page : Option Source) :
    Outcome :=
  match page with
  | none => ⟨1, ""⟩
  | some source =>
    match (Loader.new false).loadWith read source with
    | (.ok root, l) => report l.arena root selector
    | (.error _, _) => ⟨1, ""⟩

/-- Runs the command with a reader of blocks on its arguments: the selector, the path of the page,
and others, which are passed over. -/
def runWith {m : Type → Type} [Monad m] (read : List (List UInt8) → Document) (args : List String)
    (openPath : String → m (Option Source)) : m Outcome := do
  let page ← match args[1]? with
    | some path => openPath path
    | none => pure (some (.ofText samplePage))
  return onPage read (args[0]?.getD defaultSelector) page

/-- Runs the command on pages of HTML. -/
def run {m : Type → Type} [Monad m] (args : List String)
    (openPath : String → m (Option Source)) : m Outcome :=
  runWith Html.readBlocks args openPath

end CommandLine
end MarkupSearch
