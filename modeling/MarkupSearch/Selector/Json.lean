/-
# Selectors as JSON

A selector is the array of its stages, and a stage is an object with its kind and, for a tag or a
class, a name: `kind` comes first when written, and in any order when read.

Key definitions: `Stage.toJson`, `Stage.ofJson?`, `Selector.toJson`, `Selector.ofJson?`.
-/
import MarkupSearch.Json.Reader
import MarkupSearch.Selector

namespace MarkupSearch

namespace Stage

def toJson : Stage → Json
  | tag name => .object [Json.member "kind" (.text "tag"), Json.member "name" (.text name)]
  | ofClass name => .object [Json.member "kind" (.text "class"), Json.member "name" (.text name)]
  | text => .object [Json.member "kind" (.text "text")]

/-- The stage of a kind. A tag and a class need a name; a text has none, or a null in its place. -/
def ofKind? (kind : String) (name : Option Json) : Option Stage :=
  match kind, name with
  | "tag", some v => v.text?.map tag
  | "class", some v => v.text?.map ofClass
  | "text", none => some text
  | "text", some .null => some text
  | _, _ => none

/-- The stage that a value gives: an object, or the list of its kind and its name, where the kind is
a string. -/
def ofJson? (v : Json) : Option Stage :=
  match v, v.record? ["kind", "name"] with
  | .object _, some [some kind, name] => kind.variant?.bind fun k => ofKind? k name
  | .array _, some [some kind, name] => kind.text?.bind fun k => ofKind? k name
  | _, _ => none

end Stage

namespace Selector

def toJson (s : Selector) : Json := .array (s.stages.map Stage.toJson)

def ofJson? (v : Json) : Option Selector :=
  v.items?.bind fun vs => (vs.mapM Stage.ofJson?).map ofList

/-- The JSON text of a selector. -/
def toJsonText (s : Selector) : String := s.toJson.write

/-- The selector that a JSON text gives. -/
def ofJsonText? (s : String) : Option Selector := (Json.read? s).bind ofJson?

end Selector
end MarkupSearch
