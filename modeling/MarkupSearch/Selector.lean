/-
# Selectors

A selector is a list of stages, each a test on one node: an element of a name, an element of a
class, or a text. It is written as tokens between spaces: `.name` is a class, whatever begins with
`*` is any text, and all else is a tag name. Only U+0020 parts tokens.

Key definitions: `Stage`, `Stage.ofToken`, `Stage.accepts`, `Selector.parse`, `Selector.display`.
-/
import MarkupSearch.Node

namespace MarkupSearch

inductive Stage where
  /-- Elements whose tag name is this one, up to letter case. -/
  | tag (name : String)
  /-- Elements that have this class, up to letter case. -/
  | ofClass (name : String)
  /-- Text nodes. -/
  | text
deriving DecidableEq, Repr

namespace Stage

/-- The stage that a token stands for, on its characters. -/
def ofChars : List Char → Stage
  | '.' :: name => ofClass (String.ofList name)
  | '*' :: _ => text
  | name => tag (String.ofList name)

/-- The stage that a token stands for. -/
def ofToken (token : String) : Stage := ofChars token.toList

/-- Whether a node passes the stage. -/
def accepts : Stage → Node → Bool
  | tag name, n =>
    match n.tagName with
    | some t => Text.sameLetters t name
    | none => false
  | ofClass name, n => n.hasClass name
  | text, n => n.isText

/-- No stage sees ids and links. -/
theorem accepts_links (s : Stage) (n : Node) (id : NodeId) (parent : Option NodeId)
    (children : List NodeId) :
    s.accepts { n with id := id, parent := parent, children := children } = s.accepts n := by
  cases s with
  | tag name => rfl
  | ofClass name => rfl
  | text => rfl

/-- The token of a stage. -/
def display : Stage → String
  | tag name => name
  | ofClass name => "." ++ name
  | text => "*"

end Stage

/-- The stages to pass, each below a node that passed the one before. -/
structure Selector where
  stages : List Stage
deriving DecidableEq, Repr

namespace Selector

def ofList (stages : List Stage) : Selector := ⟨stages⟩

/-- The tokens of a selector's text. -/
def tokens (s : String) : List String :=
  (Text.piecesAt (· == ' ') s.toList).map String.ofList

/-- The selector that a text stands for. -/
def parse (s : String) : Selector := ⟨(tokens s).map Stage.ofToken⟩

def length (s : Selector) : Nat := s.stages.length

def isEmpty (s : Selector) : Bool := s.stages.isEmpty

/-- The tokens of the stages with a space between them. -/
def display (s : Selector) : String :=
  String.intercalate " " (s.stages.map Stage.display)

/-- How many different stages there are. -/
def distinct (s : Selector) : Nat := s.stages.eraseDups.length

end Selector
end MarkupSearch
