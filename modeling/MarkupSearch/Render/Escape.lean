/-
# Escaping

In a text the characters `&`, `<`, `>` and the no-break space are written as references; in an
attribute value `&`, `"` and the no-break space are, and angle brackets stand for themselves.

Key definitions: `Escape.Place`, `Escape.char`, `Escape.text`.
-/

namespace MarkupSearch
namespace Escape

/-- Where a text is written. -/
inductive Place where
  | content
  | quoted
deriving DecidableEq, Repr

/-- One character as it is written. -/
def char (place : Place) (c : Char) : List Char :=
  match c, place with
  | '&', _ => ['&', 'a', 'm', 'p', ';']
  | '\u00a0', _ => ['&', 'n', 'b', 's', 'p', ';']
  | '"', .quoted => ['&', 'q', 'u', 'o', 't', ';']
  | '<', .content => ['&', 'l', 't', ';']
  | '>', .content => ['&', 'g', 't', ';']
  | c, _ => [c]

/-- A text as it is written. -/
def text (place : Place) (s : String) : String :=
  String.ofList (s.toList.flatMap (char place))

end Escape
end MarkupSearch
