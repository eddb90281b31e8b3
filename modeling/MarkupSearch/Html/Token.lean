/-
# Tokens of HTML text

What the lexer hands to the builder: tags, comments, document type declarations, and text in runs
that are white space throughout or hold none. A NUL is a token of its own since most places drop it.
A fault is a mistake in the text that has no other effect than to stand between its neighbours.

Key definitions: `Html.Tag`, `Html.Token`, `Html.runs`.
-/
import MarkupSearch.Node

namespace MarkupSearch
namespace Html

/-- A tag as it is read, its attributes in source order without repetition. -/
structure Tag where
  name : String
  attributes : List Attribute
  selfClosing : Bool
deriving DecidableEq, Repr

/-- A start tag of a name alone. -/
def Tag.bare (name : String) : Tag := ⟨name, [], false⟩

/-- Whether a tag has one of these names. -/
def Tag.isAnyOf (t : Tag) (names : List String) : Bool := names.contains t.name

/-- The value of an attribute. -/
def Tag.attr (t : Tag) (name : String) : Option String :=
  (t.attributes.find? fun a => a.name == name).map (·.value)

/-- Two tags are alike when they have the same name and the same attributes in any order. -/
def Tag.isLike (t u : Tag) : Bool :=
  t.name == u.name && t.attributes.length == u.attributes.length &&
    t.attributes.all fun a => u.attributes.contains a

/-- A document type declaration. -/
structure Doctype where
  name : Option String
  publicId : Option String
  systemId : Option String
  /-- The declaration was broken off or not well written. -/
  broken : Bool
deriving DecidableEq, Repr

inductive Token where
  /-- Text that is white space throughout. -/
  | blank (s : String)
  /-- Other text. -/
  | chars (s : String)
  | null
  | start (t : Tag)
  | close (t : Tag)
  | comment (s : String)
  | doctype (d : Doctype)
  | fault
  | eof
deriving DecidableEq, Repr

/-- A run of text as a token. -/
def textToken (cs : List Char) : Token :=
  if cs.all Text.isSpace then .blank (String.ofList cs) else .chars (String.ofList cs)

/-- Parts a text into runs of white space and runs without. -/
def spaceRuns (cs : List Char) : List (List Char) :=
  cs.foldr (fun c rs =>
    match rs with
    | (d :: r) :: rs =>
      if Text.isSpace c == Text.isSpace d then (c :: d :: r) :: rs else [c] :: (d :: r) :: rs
    | rs => [c] :: rs) []

/-- The tokens of a text without NUL. -/
def runs (cs : List Char) : List Token := (spaceRuns cs).map textToken

/-- The tokens of a text that may hold NUL. -/
def runsWithNull (cs : List Char) : List Token :=
  match Text.splitAt (· == '\x00') cs with
  | [] => []
  | p :: ps => runs p ++ ps.flatMap fun q => .null :: runs q

end Html
end MarkupSearch
