/-
# JSON values and their written form

A number is kept as it is written, so that reading a value loses nothing. A string is kept as its
text; escapes may name half of a surrogate pair without the other half, and such a string has no
text. The written form is compact: no blanks, members in the order given, and of a string's
characters only the quote, the backslash and those below U+0020 escaped.

Key definitions: `Json`, `Json.quote`, `Json.write`.
-/

namespace MarkupSearch

inductive Json where
  | null
  | bool (b : Bool)
  | number (lexeme : String)
  | string (text : Option String)
  | array (items : List Json)
  | object (members : List (Option String × Json))

namespace Json

/-- One character within a written string. -/
def quoteChar (c : Char) : List Char :=
  match c with
  | '"' => ['\\', '"']
  | '\\' => ['\\', '\\']
  | '\x08' => ['\\', 'b']
  | '\t' => ['\\', 't']
  | '\n' => ['\\', 'n']
  | '\x0c' => ['\\', 'f']
  | '\r' => ['\\', 'r']
  | c =>
    if c.toNat < 0x20 then
      ['\\', 'u', '0', '0', Nat.digitChar (c.toNat / 16), Nat.digitChar (c.toNat % 16)]
    else [c]

/-- A written string. One without a text is written as half of a surrogate pair. -/
def quote : Option String → List Char
  | some s => '"' :: (s.toList.flatMap quoteChar ++ ['"'])
  | none => ['"', '\\', 'u', 'd', '8', '0', '0', '"']

mutual
/-- The characters of a written value. -/
def chars : Json → List Char
  | null => ['n', 'u', 'l', 'l']
  | bool true => ['t', 'r', 'u', 'e']
  | bool false => ['f', 'a', 'l', 's', 'e']
  | number lexeme => lexeme.toList
  | string text => quote text
  | array items => '[' :: (itemChars items ++ [']'])
  | object members => '\x7b' :: (memberChars members ++ ['\x7d'])

/-- The items of an array with commas between them. -/
def itemChars : List Json → List Char
  | [] => []
  | [v] => chars v
  | v :: vs => chars v ++ ',' :: itemChars vs

/-- The members of an object with commas between them. -/
def memberChars : List (Option String × Json) → List Char
  | [] => []
  | [(k, v)] => quote k ++ ':' :: chars v
  | (k, v) :: ms => quote k ++ ':' :: chars v ++ ',' :: memberChars ms
end

/-- The written form of a value. -/
def write (v : Json) : String := String.ofList v.chars

/-- A string that has a text. -/
def text (s : String) : Json := string (some s)

/-- A natural number. -/
def nat (n : Nat) : Json := number (toString n)

/-- A member with a name that has a text. -/
def member (name : String) (v : Json) : Option String × Json := (some name, v)

end Json
end MarkupSearch
