/-
# Reading HTML

A text is read by taking one token after the other off its head and giving each to the builder,
which in turn says how the text after it is to be read. Every text gives a document.

Key definitions: `Html.takeToken`, `Html.readTokens`, `Html.read`, `Html.readBlocks`.
-/
import MarkupSearch.Html.Rules.Foreign
import MarkupSearch.Text.Utf8

namespace MarkupSearch
namespace Html

/-- Gives a token to the rules until none hands it on. Each time it is handed on the mode goes
further or an element is closed, so that the bound is never met. -/
def settle : Nat → Token → Build Unit
  | 0, _ => return ()
  | n + 1, t => do
    let out ← if isForeign (← get) t then foreignRule t else modeRule t
    match out with
    | some t => settle n t
    | none => return ()

/-- Text without the line feed at its start, when one is to be dropped. -/
def dropNewline (drop : Bool) (s : String) : String :=
  match drop, s.toList with
  | true, '\n' :: cs => String.ofList cs
  | _, _ => s

/-- Gives a token to the builder. -/
def takeToken (t : Token) : Build Unit := do
  let b ← get
  set { b with dropNewline := false, textMode := match t with
    | .start _ => .content
    | .close _ => .content
    | _ => b.textMode }
  let give := fun t => settle (8 * b.openElements.length + 64) t
  match t with
  | .fault => return ()
  | .doctype _ => if b.mode = .initial then give t
  | .blank s =>
    let s := dropNewline b.dropNewline s
    if s ≠ "" then give (.blank s)
  | .chars s => give (.chars (dropNewline b.dropNewline s))
  | t => give t

/-- The name of the last start tag among tokens, or the one before. -/
def lastStart (before : String) : List Token → String
  | [] => before
  | .start tag :: ts => lastStart tag.name ts
  | _ :: ts => lastStart before ts

/-- Whether a character data section may come: the innermost element is a foreign one. -/
def takesSections (b : Builder) : Bool :=
  match b.openElements with
  | e :: _ => e.name.vocabulary != .html
  | [] => false

/-- A text without the mark that may stand before it. -/
def dropMark : List Char → List Char
  | '\uFEFF' :: cs => cs
  | cs => cs

/-- Whether a token ends a script. -/
def endsScript (mode : TextMode) : Token → Bool
  | .close _ => mode == .script
  | _ => false

/-- How much text there is from the start of each piece on. -/
def pieceStarts (pieces : List (List Char)) : List Nat :=
  pieces.foldr (fun piece starts => (piece.length + starts.headD 0) :: starts) []

/-- The text after a script. A mark is dropped when it comes within the piece in which the script
ends; at the start of a piece that piece's own mark is gone already. -/
def afterScript (starts : List Nat) (cs : List Char) : List Char :=
  match cs with
  | '\uFEFF' :: rest => if starts.contains cs.length then cs else rest
  | cs => cs

/-- Reads a text within a bound on the number of readings, `last` being the name of the last start
tag and `starts` saying where pieces start. -/
def readTokens (starts : List Nat) : Nat → String → List Char → Build Unit
  | 0, _, _ => return ()
  | n + 1, last, cs => do
    let b ← get
    let (tokens, rest) := Lexer.next b.textMode last (takesSections b) cs
    tokens.forM takeToken
    if tokens.getLast? == some .eof then return ()
    else
      let rest := if tokens.any (endsScript b.textMode) then afterScript starts rest else rest
      readTokens starts n (lastStart last tokens) rest

/-- The document that a text in pieces gives. A mark may stand before each piece. -/
def read (pieces : List (List Char)) : Document :=
  let pieces := Lexer.newlines (pieces.map dropMark)
  let cs := pieces.flatten
  let (_, b) := Id.run ((readTokens (pieceStarts pieces) (cs.length + 1) "" cs).run Builder.start)
  b.draft.document

/-- The document that blocks of octets give. -/
def readBlocks (blocks : List (List UInt8)) : Document := read (Text.decode blocks)

end Html
end MarkupSearch
