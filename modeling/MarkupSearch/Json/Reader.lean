/-
# Reading JSON

The reader takes a whole text or none of it. Blanks are space, tab, line feed and carriage return.
Numbers follow the grammar (no leading zeros, a digit on each side of the point) and are kept as
written. Strings may hold any character from U+0020 on; `\u` escapes name UTF-16 units, and two of
them that form a surrogate pair are one character.

Key definitions: `Json.pieces`, `Json.joinUnits`, `Json.value`, `Json.read?`.
-/
import MarkupSearch.Json.Basic

namespace MarkupSearch
namespace Json

def isGap (c : Char) : Bool := c = ' ' || c = '\t' || c = '\n' || c = '\r'

/-- What follows the blanks. -/
def skipGaps (cs : List Char) : List Char := cs.dropWhile isGap

/-! ### Numbers -/

/-- What follows a run of at least one digit. -/
def digits? (cs : List Char) : Option (List Char) :=
  match cs with
  | c :: r => if c.isDigit then some (r.dropWhile Char.isDigit) else none
  | [] => none

/-- What follows the digits before the point: a zero alone, or digits without a leading zero. -/
def whole? : List Char → Option (List Char)
  | '0' :: r => some r
  | cs => digits? cs

/-- What follows the digits after the point, if there is one. -/
def fraction? : List Char → Option (List Char)
  | '.' :: r => digits? r
  | cs => some cs

/-- What follows the exponent, if there is one. -/
def exponent? : List Char → Option (List Char)
  | e :: r =>
    if e = 'e' || e = 'E' then
      match r with
      | sign :: r' => if sign = '+' || sign = '-' then digits? r' else digits? r
      | [] => none
    else some (e :: r)
  | [] => some []

/-- Whether a text is a number. -/
def isNumber (cs : List Char) : Bool :=
  let unsigned := match cs with
    | '-' :: r => r
    | cs => cs
  match (whole? unsigned).bind fun r => (fraction? r).bind exponent? with
  | some [] => true
  | _ => false

/-- The characters that numbers are written with. -/
def isNumeric (c : Char) : Bool :=
  c.isDigit || c = '-' || c = '+' || c = '.' || c = 'e' || c = 'E'

/-! ### Strings -/

/-- A piece of a string: a character, or a UTF-16 unit named by an escape. -/
inductive Piece where
  | char (c : Char)
  | unit (n : Nat)
deriving DecidableEq, Repr

/-- The value of a hexadecimal digit. -/
def hexValue? (c : Char) : Option Nat :=
  if '0' ≤ c ∧ c ≤ '9' then some (c.toNat - '0'.toNat)
  else if 'a' ≤ c ∧ c ≤ 'f' then some (c.toNat - 'a'.toNat + 10)
  else if 'A' ≤ c ∧ c ≤ 'F' then some (c.toNat - 'A'.toNat + 10)
  else none

/-- The unit that four hexadecimal digits name. -/
def unit? (a b c d : Char) : Option Nat := do
  return (((← hexValue? a) * 16 + (← hexValue? b)) * 16 + (← hexValue? c)) * 16 + (← hexValue? d)

/-- The character that a backslash and a letter stand for. -/
def escaped? : Char → Option Char
  | '"' => some '"'
  | '\\' => some '\\'
  | '/' => some '/'
  | 'b' => some '\x08'
  | 'f' => some '\x0c'
  | 'n' => some '\n'
  | 'r' => some '\r'
  | 't' => some '\t'
  | _ => none

/-- The pieces of a string after its opening quote, and what follows its closing one. -/
def pieces : List Char → Option (List Piece × List Char)
  | [] => none
  | '"' :: r => some ([], r)
  | '\\' :: 'u' :: a :: b :: c :: d :: r =>
    match unit? a b c d, pieces r with
    | some n, some (ps, rest) => some (.unit n :: ps, rest)
    | _, _ => none
  | '\\' :: e :: r =>
    match escaped? e, pieces r with
    | some c, some (ps, rest) => some (.char c :: ps, rest)
    | _, _ => none
  | c :: r =>
    if c = '\\' || c.toNat < 0x20 then none
    else match pieces r with
      | some (ps, rest) => some (.char c :: ps, rest)
      | none => none

def isHigh (n : Nat) : Bool := 0xD800 ≤ n && n ≤ 0xDBFF

def isLow (n : Nat) : Bool := 0xDC00 ≤ n && n ≤ 0xDFFF

/-- The text of pieces: two units that form a surrogate pair are one character, and half a pair is
none. -/
def joinUnits : List Piece → Option (List Char)
  | [] => some []
  | .char c :: ps => (joinUnits ps).map (c :: ·)
  | .unit h :: .unit l :: ps =>
    if isHigh h then
      if isLow l then
        (joinUnits ps).map (Char.ofNat (0x10000 + (h - 0xD800) * 0x400 + (l - 0xDC00)) :: ·)
      else none
    else if isLow h then none
    else (joinUnits (.unit l :: ps)).map (Char.ofNat h :: ·)
  | .unit n :: ps =>
    if isHigh n || isLow n then none else (joinUnits ps).map (Char.ofNat n :: ·)

/-- A string after its opening quote. -/
def string? (cs : List Char) : Option (Option String × List Char) :=
  (pieces cs).map fun p => ((joinUnits p.1).map String.ofList, p.2)

/-! ### Values -/

mutual
/-- A value at the head of a text, within a bound on the nesting of calls. -/
def value : Nat → List Char → Option (Json × List Char)
  | 0, _ => none
  | n + 1, cs =>
    match skipGaps cs with
    | 'n' :: 'u' :: 'l' :: 'l' :: r => some (null, r)
    | 't' :: 'r' :: 'u' :: 'e' :: r => some (bool true, r)
    | 'f' :: 'a' :: 'l' :: 's' :: 'e' :: r => some (bool false, r)
    | '"' :: r => (string? r).map fun p => (string p.1, p.2)
    | '[' :: r =>
      match skipGaps r with
      | ']' :: r => some (array [], r)
      | r => (items n r).map fun p => (array p.1, p.2)
    | '\x7b' :: r =>
      match skipGaps r with
      | '\x7d' :: r => some (object [], r)
      | r => (members n r).map fun p => (object p.1, p.2)
    | cs =>
      let lexeme := cs.takeWhile isNumeric
      if isNumber lexeme then some (number (String.ofList lexeme), cs.dropWhile isNumeric) else none

/-- The items of an array up to its closing bracket. -/
def items : Nat → List Char → Option (List Json × List Char)
  | 0, _ => none
  | n + 1, cs =>
    match value n cs with
    | none => none
    | some (v, r) =>
      match skipGaps r with
      | ',' :: r => (items n r).map fun p => (v :: p.1, p.2)
      | ']' :: r => some ([v], r)
      | _ => none

/-- The members of an object up to its closing brace. -/
def members : Nat → List Char → Option (List (Option String × Json) × List Char)
  | 0, _ => none
  | n + 1, cs =>
    match skipGaps cs with
    | '"' :: r =>
      match string? r with
      | none => none
      | some (k, r) =>
        match skipGaps r with
        | ':' :: r =>
          match value n r with
          | none => none
          | some (v, r) =>
            match skipGaps r with
            | ',' :: r => (members n r).map fun p => ((k, v) :: p.1, p.2)
            | '\x7d' :: r => some ([(k, v)], r)
            | _ => none
        | _ => none
    | _ => none
end

/-- The value that a whole text is. -/
def read? (s : String) : Option Json :=
  match value (2 * s.length + 2) s.toList with
  | some (v, r) => if (skipGaps r).isEmpty then some v else none
  | none => none

/-! ### Records and variants -/

/-- The text of a string that has one. -/
def text? : Json → Option String
  | string t => t
  | _ => none

/-- The items of an array. -/
def items? : Json → Option (List Json)
  | array vs => some vs
  | _ => none

/-- An integer without sign, below a bound. -/
def natBelow? (bound : Nat) : Json → Option Nat
  | number lexeme =>
    let digits := lexeme.toList
    if digits.isEmpty || !digits.all Char.isDigit then none
    else
      let n := Nat.ofDigitChars 10 digits 0
      if n < bound then some n else none
  | _ => none

/-- The value under a key that occurs at most once; the outer `none` is a repetition. -/
def field? (members : List (Option String × Json)) (key : String) : Option (Option Json) :=
  match members.filter fun m => m.1 == some key with
  | [] => some none
  | [m] => some (some m.2)
  | _ => none

/-- A record with the given fields, as an object in any order or as the list of all fields in this
order. Members of an object under other keys are passed over; a field may be missing there. -/
def record? (keys : List String) : Json → Option (List (Option Json))
  | object ms => if ms.all fun m => m.1.isSome then keys.mapM (field? ms) else none
  | array vs => if vs.length = keys.length then some (vs.map some) else none
  | _ => none

/-- The name of a variant without data: the name itself, or an object with the name over a null. -/
def variant? : Json → Option String
  | string t => t
  | object [(k, null)] => k
  | _ => none

end Json
end MarkupSearch
