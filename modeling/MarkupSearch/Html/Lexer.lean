/-
# From text to tokens

The lexer reads one token, or a few that belong together, off the head of the text. How it reads
depends on what the builder asked for after the last tag: ordinary content, text with references
only (`title`, `textarea`), text as it is (`style` and others), scripts, or plain text to the end.
The text inside such elements ends at the end tag of the element's own name; a script has its own
rules about where that may be.

A tag that the text ends within is dropped; a comment or a declaration is kept.

Key definitions: `Html.TextMode`, `Html.Lexer.tag?`, `Html.Lexer.comment`, `Html.Lexer.doctype`,
`Html.Lexer.script`, `Html.Lexer.next`.
-/
import MarkupSearch.Html.Reference
import MarkupSearch.Html.Token

namespace MarkupSearch
namespace Html

/-- How text is read. -/
inductive TextMode where
  | content
  | references
  | raw
  | script
  | plain
deriving DecidableEq, Repr

namespace Lexer

/-- A NUL within a token is read as U+FFFD. -/
def clean (c : Char) : Char := if c = '\x00' then '\uFFFD' else c

/-- One piece of a text with its carriage returns, alone or before a line feed, read as line feeds,
and whether it ends with one; the text before it may end with one too. -/
def pieceNewlines (afterReturn : Bool) (piece : List Char) : List Char × Bool :=
  let (out, afterReturn) := piece.foldl (fun (out, afterReturn) c =>
    if c = '\r' then ('\n' :: out, true)
    else if c = '\n' && afterReturn then (out, false)
    else (c :: out, false)) (([] : List Char), afterReturn)
  (out.reverse, afterReturn)

/-- A text in pieces with its carriage returns, alone or before a line feed, read as line feeds. -/
def newlines (pieces : List (List Char)) : List (List Char) :=
  (pieces.foldl (fun (out, afterReturn) piece =>
    let (piece, afterReturn) := pieceNewlines afterReturn piece
    (piece :: out, afterReturn)) (([] : List (List Char)), false)).1.reverse

/-! ### Tags -/

/-- Where the lexer stands within a tag. -/
inductive TagPlace where
  | beforeName
  | inName
  | afterName
  | beforeValue
  | inQuoted (quote : Char)
  | inUnquoted
  | afterQuoted
  | afterSlash
deriving DecidableEq

/-- The attribute being read, its characters last first, and those read before, last first. -/
structure TagScan where
  name : List Char
  value : List Char
  attributes : List Attribute

namespace TagScan

def empty : TagScan := ⟨[], [], []⟩

/-- Ends the attribute being read. One whose name has been read before is dropped. -/
def finish (s : TagScan) : TagScan :=
  let name := String.ofList s.name.reverse
  if s.name.isEmpty || s.attributes.any fun a => a.name == name then ⟨[], [], s.attributes⟩
  else
    let value := String.ofList (Reference.expand s.value.reverse)
    ⟨[], [], ⟨name, value⟩ :: s.attributes⟩

def pushName (s : TagScan) (c : Char) : TagScan :=
  { s with name := Text.asciiLower (clean c) :: s.name }

def pushValue (s : TagScan) (c : Char) : TagScan :=
  { s with value := clean c :: s.value }

/-- Begins an attribute with the first character of its name. -/
def begin (s : TagScan) (c : Char) : TagScan := s.finish.pushName c

def toList (s : TagScan) : List Attribute := s.finish.attributes.reverse

end TagScan

/-- What comes before the name of an attribute: blanks, a slash, or the name. -/
def beforeName (s : TagScan) (c : Char) : TagPlace × TagScan :=
  if Text.isSpace c then (.beforeName, s)
  else if c = '/' then (.afterSlash, s)
  else (.inName, s.begin c)

/-- Takes a character that does not end the tag. -/
def tagStep (place : TagPlace) (s : TagScan) (c : Char) : TagPlace × TagScan :=
  match place with
  | .beforeName => beforeName s c
  | .inName =>
    if Text.isSpace c then (.afterName, s)
    else if c = '/' then (.afterSlash, s)
    else if c = '=' then (.beforeValue, s)
    else (.inName, s.pushName c)
  | .afterName =>
    if Text.isSpace c then (.afterName, s)
    else if c = '/' then (.afterSlash, s)
    else if c = '=' then (.beforeValue, s)
    else (.inName, s.begin c)
  | .beforeValue =>
    if Text.isSpace c then (.beforeValue, s)
    else if c = '"' || c = '\'' then (.inQuoted c, s)
    else (.inUnquoted, s.pushValue c)
  | .inQuoted quote => if c = quote then (.afterQuoted, s) else (place, s.pushValue c)
  | .inUnquoted => if Text.isSpace c then (.beforeName, s) else (.inUnquoted, s.pushValue c)
  | .afterQuoted => beforeName s c
  | .afterSlash => beforeName s c

/-- The attributes of a tag from after its name on, whether it closes itself, and the text after the
tag; `none` when the text ends first. -/
def attributes : TagPlace → TagScan → List Char → Option (List Attribute × Bool × List Char)
  | _, _, [] => none
  | place, s, c :: r =>
    match place with
    | .inQuoted _ =>
      let (place, s) := tagStep place s c
      attributes place s r
    | _ =>
      if c = '>' then some (s.toList, place == .afterSlash, r)
      else
        let (place, s) := tagStep place s c
        attributes place s r

/-- Whether a character ends the name of a tag. -/
def endsTagName (c : Char) : Bool := Text.isSpace c || c = '/' || c = '>'

/-- A tag from its name on, and the text after it; `none` when the text ends first. -/
def tag? (cs : List Char) : Option (Tag × List Char) :=
  let name := cs.takeWhile fun c => !endsTagName c
  match attributes .beforeName .empty (cs.dropWhile fun c => !endsTagName c) with
  | some (attrs, closing, rest) =>
    some (⟨String.ofList (name.map fun c => Text.asciiLower (clean c)), attrs, closing⟩, rest)
  | none => none

/-! ### Comments -/

/-- Where the lexer stands within a comment. -/
inductive CommentPlace where
  | atStart
  | afterStartDash
  | inside
  | afterDash
  | afterDashes
  | afterBang

/-- A comment from after its opening on, its characters so far last first, and the text after it. A
comment ends at `-->` or `--!>`, right at its start also at `>` and `->`, or with the text; then the
dashes before the end are not part of it. -/
def comment : CommentPlace → List Char → List Char → List Char × List Char
  | _, out, [] => (out.reverse, [])
  | place, out, c :: r =>
    match place with
    | .atStart =>
      if c = '-' then comment .afterStartDash out r
      else if c = '>' then (out.reverse, r)
      else comment .inside (clean c :: out) r
    | .afterStartDash =>
      if c = '-' then comment .afterDashes out r
      else if c = '>' then (out.reverse, r)
      else comment .inside (clean c :: '-' :: out) r
    | .inside =>
      if c = '-' then comment .afterDash out r else comment .inside (clean c :: out) r
    | .afterDash =>
      if c = '-' then comment .afterDashes out r
      else comment .inside (clean c :: '-' :: out) r
    | .afterDashes =>
      if c = '>' then (out.reverse, r)
      else if c = '!' then comment .afterBang out r
      else if c = '-' then comment .afterDashes ('-' :: out) r
      else comment .inside (clean c :: '-' :: '-' :: out) r
    | .afterBang =>
      if c = '>' then (out.reverse, r)
      else if c = '-' then comment .afterDash ('!' :: '-' :: '-' :: out) r
      else comment .inside (clean c :: '!' :: '-' :: '-' :: out) r

/-- What is read as a comment though it is none: the text up to the next `>`. -/
def falseComment (cs : List Char) : List Token × List Char :=
  ([.comment (String.ofList ((cs.takeWhile (· != '>')).map clean))],
   (cs.dropWhile (· != '>')).drop 1)

/-! ### Document type declarations -/

/-- The text after a word, whatever the case of its letters. -/
def dropWord? (word : String) (cs : List Char) : Option (List Char) :=
  let head := cs.take word.length
  if head.map Text.asciiLower == word.toList then some (cs.drop word.length) else none

/-- Passes over the rest of a declaration. -/
def skipDeclaration (cs : List Char) : List Char := (cs.dropWhile (· != '>')).drop 1

/-- A quoted identifier from after its opening quote on: its characters, whether it was closed, and
the text after it. -/
def identifier (quote : Char) (cs : List Char) : String × Bool × List Char :=
  let inside := cs.takeWhile fun c => c != quote && c != '>'
  let rest := cs.dropWhile fun c => c != quote && c != '>'
  let id := String.ofList (inside.map clean)
  match rest with
  | c :: r => (id, c == quote, r)
  | [] => (id, false, [])

def isQuote (c : Char) : Bool := c = '"' || c = '\''

/-- A declaration from after its system identifier on. -/
def afterSystem (d : Doctype) (cs : List Char) : Doctype × List Char :=
  match cs.dropWhile Text.isSpace with
  | [] => ({ d with broken := true }, [])
  | cs => (d, skipDeclaration cs)

/-- A declaration where its system identifier may come. -/
def systemPart (needed : Bool) (d : Doctype) (cs : List Char) : Doctype × List Char :=
  match cs.dropWhile Text.isSpace with
  | [] => ({ d with broken := true }, [])
  | c :: r =>
    if c = '>' then ({ d with broken := d.broken || needed }, r)
    else if isQuote c then
      let (id, closed, rest) := identifier c r
      let d := { d with systemId := some id, broken := d.broken || !closed }
      if closed then afterSystem d rest else (d, rest)
    else ({ d with broken := true }, skipDeclaration (c :: r))

/-- A declaration where its public identifier should come. -/
def publicPart (d : Doctype) (cs : List Char) : Doctype × List Char :=
  match cs.dropWhile Text.isSpace with
  | [] => ({ d with broken := true }, [])
  | c :: r =>
    if isQuote c then
      let (id, closed, rest) := identifier c r
      let d := { d with publicId := some id, broken := !closed }
      if closed then systemPart false d rest else (d, rest)
    else ({ d with broken := true }, skipDeclaration (c :: r))

/-- A declaration from after its name on. -/
def afterDoctypeName (d : Doctype) (cs : List Char) : Doctype × List Char :=
  match cs.dropWhile Text.isSpace with
  | [] => ({ d with broken := true }, [])
  | '>' :: r => (d, r)
  | cs =>
    match dropWord? "public" cs, dropWord? "system" cs with
    | some r, _ => publicPart d r
    | none, some r => systemPart true d r
    | none, none => ({ d with broken := true }, skipDeclaration cs)

/-- A document type declaration from after its keyword on, and the text after it. -/
def doctype (cs : List Char) : Doctype × List Char :=
  match cs.dropWhile Text.isSpace with
  | [] => (⟨none, none, none, true⟩, [])
  | '>' :: r => (⟨none, none, none, true⟩, r)
  | cs =>
    let endsName := fun c => Text.isSpace c || c == '>'
    let name := (cs.takeWhile fun c => !endsName c).map fun c => Text.asciiLower (clean c)
    afterDoctypeName ⟨some (String.ofList name), none, none, false⟩
      (cs.dropWhile fun c => !endsName c)

/-! ### Character data sections -/

/-- The text of a section up to `]]>` or the end, its characters so far last first, and the text
after the section. -/
def cdata : List Char → List Char → List Char × List Char
  | out, [] => (out.reverse, [])
  | out, ']' :: ']' :: '>' :: r => (out.reverse, r)
  | out, c :: r => cdata (c :: out) r

/-! ### Text inside an element of its own rules -/

/-- Whether the end tag of this name comes after `</`. -/
def isEndTagOf (name : String) (cs : List Char) : Bool :=
  match dropWord? name cs with
  | some (c :: _) => endsTagName c
  | _ => false

/-- Whether a text begins with the end tag of this name. -/
def beginsEndTagOf (name : String) : List Char → Bool
  | '<' :: '/' :: r => isEndTagOf name r
  | _ => false

/-- The text up to the end tag of this name, its characters so far last first, and the text from
there on. -/
def rawText (name : String) : List Char → List Char → List Char × List Char
  | out, [] => (out.reverse, [])
  | out, c :: r =>
    if c = '<' && beginsEndTagOf name (c :: r) then (out.reverse, c :: r)
    else rawText name (clean c :: out) r

/-- Where the lexer stands within a script. `<!--` begins a part in which a further `script` tag
opens a part where the end tag does not count; `-->` ends both. -/
inductive ScriptPlace where
  | plain
  /-- Before the `!` of `<!`. -/
  | beforeBang
  | afterBang
  | afterBangDash
  | hidden (dashes : Nat)
  /-- Within a name after `<` in a hidden part. -/
  | opening (name : List Char)
  | nested (dashes : Nat)
  /-- Before the slash of `</` in a nested part. -/
  | beforeSlash
  /-- Within a name after `</` in a nested part. -/
  | closing (name : List Char)

/-- Where a character of plain script leads; `none` where the script ends. -/
def plainNext (cs : List Char) : Option ScriptPlace :=
  match cs with
  | '<' :: '!' :: _ => some .beforeBang
  | cs => if beginsEndTagOf "script" cs then none else some .plain

/-- Where a character of a hidden part leads; `none` where the script ends. -/
def hiddenNext (dashes : Nat) (cs : List Char) : Option ScriptPlace :=
  match cs with
  | '-' :: _ => some (.hidden (min 2 (dashes + 1)))
  | '>' :: _ => some (if dashes = 2 then .plain else .hidden 0)
  | '<' :: c :: _ =>
    if c.isAlpha then some (.opening [])
    else if beginsEndTagOf "script" cs then none
    else some (.hidden 0)
  | _ => some (.hidden 0)

/-- Where a character of a nested part leads. -/
def nestedNext (dashes : Nat) (cs : List Char) : Option ScriptPlace :=
  match cs with
  | '-' :: _ => some (.nested (min 2 (dashes + 1)))
  | '>' :: _ => some (if dashes = 2 then .plain else .nested 0)
  | '<' :: '/' :: _ => some .beforeSlash
  | _ => some (.nested 0)

/-- Where the next character of a script leads; `none` where the script ends. -/
def scriptNext (place : ScriptPlace) (c : Char) (cs : List Char) : Option ScriptPlace :=
  match place with
  | .plain => plainNext cs
  | .beforeBang => some .afterBang
  | .afterBang => if c = '-' then some .afterBangDash else plainNext cs
  | .afterBangDash => if c = '-' then some (.hidden 2) else plainNext cs
  | .hidden dashes => hiddenNext dashes cs
  | .opening name =>
    if c.isAlpha then some (.opening (Text.asciiLower c :: name))
    else if endsTagName c then
      some (if name.reverse == "script".toList then .nested 0 else .hidden 0)
    else hiddenNext 0 cs
  | .nested dashes => nestedNext dashes cs
  | .beforeSlash => some (.closing [])
  | .closing name =>
    if c.isAlpha then some (.closing (Text.asciiLower c :: name))
    else if endsTagName c then
      some (if name.reverse == "script".toList then .hidden 0 else .nested 0)
    else nestedNext 0 cs

/-- The text of a script up to its end tag, its characters so far last first, and the text from
there on. -/
def script : ScriptPlace → List Char → List Char → List Char × List Char
  | _, out, [] => (out.reverse, [])
  | place, out, c :: r =>
    match scriptNext place c (c :: r) with
    | some place => script place (clean c :: out) r
    | none => (out.reverse, c :: r)

/-! ### The next token -/

/-- What an ampersand stands for in content. -/
def reference (cs : List Char) : List Token × List Char :=
  let ref := Reference.read false cs
  let text := runs ref.chars
  (if ref.fault then .fault :: text else text, ref.rest)

/-- A tag from its name on as a token; one that the text ends within is dropped with it. -/
def tagToken (make : Tag → Token) (cs : List Char) : List Token × List Char :=
  match tag? cs with
  | some (t, rest) => ([make t], rest)
  | none => ([.eof], [])

/-- A declaration or a comment from after `<!` on. -/
def declaration (inForeign : Bool) (cs : List Char) : List Token × List Char :=
  match cs with
  | '-' :: '-' :: r =>
    let (text, rest) := comment .atStart [] r
    ([.comment (String.ofList text)], rest)
  | cs =>
    match dropWord? "doctype" cs with
    | some r =>
      let (d, rest) := doctype r
      ([.doctype d], rest)
    | none =>
      if inForeign && cs.take 7 == "[CDATA[".toList then
        let (text, rest) := cdata [] (cs.drop 7)
        (runsWithNull text, rest)
      else falseComment cs

/-- What begins with `<`, from after it on. -/
def markup (inForeign : Bool) (cs : List Char) : List Token × List Char :=
  match cs with
  | '!' :: r => declaration inForeign r
  | '?' :: _ => falseComment cs
  | '/' :: r =>
    match r with
    | [] => ([.chars "</"], [])
    | '>' :: r => ([.fault], r)
    | c :: _ => if c.isAlpha then tagToken .close r else falseComment r
  | c :: _ => if c.isAlpha then tagToken .start cs else ([.chars "<"], cs)
  | [] => ([.chars "<"], [])

/-- Whether a character of content is no more than text. -/
def isOrdinary (c : Char) : Bool := c != '<' && c != '&' && c != '\x00'

/-- The next tokens of ordinary content. -/
def content (inForeign : Bool) (cs : List Char) : List Token × List Char :=
  match cs with
  | [] => ([.eof], [])
  | '<' :: r => markup inForeign r
  | '&' :: r => reference r
  | '\x00' :: r => ([.null], r)
  | cs => (runs (cs.takeWhile isOrdinary), cs.dropWhile isOrdinary)

/-- A text token, if there is any text. -/
def textIfAny (cs : List Char) : List Token :=
  if cs.isEmpty then [] else [textToken cs]

/-- The end tag that a text begins with. -/
def endTag (cs : List Char) : List Token × List Char := tagToken .close (cs.drop 2)

/-- The next tokens of a text with references, up to the end tag of this name. -/
def referenceText (name : String) (cs : List Char) : List Token × List Char :=
  match cs with
  | [] => ([.eof], [])
  | '&' :: r => reference r
  | '<' :: r => if beginsEndTagOf name cs then endTag cs else ([.chars "<"], r)
  | cs =>
    let plain := fun c => c != '<' && c != '&'
    (textIfAny ((cs.takeWhile plain).map clean), cs.dropWhile plain)

/-- The next tokens of a text that goes up to an end tag. -/
def upToEndTag (name : String) (read : List Char → List Char × List Char) (cs : List Char) :
    List Token × List Char :=
  match cs with
  | [] => ([.eof], [])
  | cs =>
    if beginsEndTagOf name cs then endTag cs
    else
      let (text, rest) := read cs
      (textIfAny text, rest)

/-- The next tokens, and the text after them. Of a non-empty text some is read. -/
def next (mode : TextMode) (lastStart : String) (inForeign : Bool) (cs : List Char) :
    List Token × List Char :=
  match mode with
  | .content => content inForeign cs
  | .references => referenceText lastStart cs
  | .raw => upToEndTag lastStart (rawText lastStart []) cs
  | .script => upToEndTag lastStart (script .plain []) cs
  | .plain => if cs.isEmpty then ([.eof], []) else (textIfAny (cs.map clean), [])

end Lexer
end Html
end MarkupSearch
