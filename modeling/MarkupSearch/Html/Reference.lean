/-
# Character references

An ampersand may begin a reference by name or by number. A reference by name is the longest name
that the text has next; without its semicolon it counts only for the old names, and in an attribute
value not even for those when a letter, a digit or an equals sign follows. A reference by number
stands for the character of that number, with three corrections: numbers of the C1 controls stand
for what windows-1252 has in their place, and zero, surrogates and numbers too great stand for
U+FFFD.

Key definitions: `Html.Reference`, `Html.Reference.read`, `Html.Reference.expand`.
-/
import MarkupSearch.Html.NamedCharacter

namespace MarkupSearch
namespace Html

/-- What an ampersand stands for, and the text after the reference. -/
structure Reference where
  /-- The reference is not as it should be. -/
  fault : Bool
  chars : List Char
  rest : List Char

namespace Reference

/-- An ampersand that begins no reference. -/
def plain (fault : Bool) (rest : List Char) : Reference := ⟨fault, ['&'], rest⟩

/-! ### By number -/

/-- What the numbers from 0x80 on stand for; a zero leaves the number as it is. -/
def controlReplacements : List Nat :=
  [0x20AC, 0, 0x201A, 0x0192, 0x201E, 0x2026, 0x2020, 0x2021, 0x02C6, 0x2030, 0x0160, 0x2039,
   0x0152, 0, 0x017D, 0, 0, 0x2018, 0x2019, 0x201C, 0x201D, 0x2022, 0x2013, 0x2014, 0x02DC,
   0x2122, 0x0161, 0x203A, 0x0153, 0, 0x017E, 0x0178]

/-- The character of a number. -/
def charOfNumber (n : Nat) : Char :=
  if n = 0 || n > 0x10FFFF || (0xD800 ≤ n && n ≤ 0xDFFF) then '\uFFFD'
  else if 0x80 ≤ n && n ≤ 0x9F then
    match controlReplacements.getD (n - 0x80) 0 with
    | 0 => Char.ofNat n
    | m => Char.ofNat m
  else Char.ofNat n

/-- Whether a number should not be referred to. -/
def isBadNumber (n : Nat) : Bool :=
  n = 0 || n > 0x10FFFF || (0xD800 ≤ n && n ≤ 0xDFFF) || (0x80 ≤ n && n ≤ 0x9F) ||
    (n ≤ 0x08) || n = 0x0B || (0x0D ≤ n && n ≤ 0x1F) || n = 0x7F || (0xFDD0 ≤ n && n ≤ 0xFDEF) ||
    n % 0x10000 ≥ 0xFFFE

def isHexDigit (c : Char) : Bool :=
  c.isDigit || ('a' ≤ c && c ≤ 'f') || ('A' ≤ c && c ≤ 'F')

def digitValue (c : Char) : Nat :=
  if c.isDigit then c.toNat - 48 else if c.toNat ≥ 97 then c.toNat - 87 else c.toNat - 55

/-- The value of digits, as far as it matters: all numbers beyond the last character are one. -/
def numberOf (base : Nat) (digits : List Char) : Nat :=
  digits.foldl (fun n c => min (base * n + digitValue c) 0x110000) 0

/-- A reference by number from its digits on; `whole` is the text after the ampersand. -/
def readDigits (base : Nat) (isDigit : Char → Bool) (whole cs : List Char) : Reference :=
  let digits := cs.takeWhile isDigit
  if digits.isEmpty then plain true whole
  else
    let n := numberOf base digits
    match cs.dropWhile isDigit with
    | ';' :: rest => ⟨isBadNumber n, [charOfNumber n], rest⟩
    | rest => ⟨true, [charOfNumber n], rest⟩

/-! ### By name -/

/-- The longest of the old names that a text begins with, of at most so many characters. -/
def longestBare (cs : List Char) : Nat → Option (String × List Char)
  | 0 => none
  | n + 1 =>
    let name := String.ofList (cs.take (n + 1))
    if bareNames.contains name then (character? name).map fun r => (name, r)
    else longestBare cs n

/-- Whether a text goes on as an attribute value might that means no reference. -/
def goesOn : List Char → Bool
  | c :: _ => c = '=' || c.isAlphanum
  | [] => false

/-- A reference by an old name without its semicolon. -/
def readBare (inAttribute : Bool) (cs : List Char) : Reference :=
  match longestBare cs (min 32 (cs.takeWhile Char.isAlphanum).length) with
  | none => plain true cs
  | some (name, chars) =>
    let rest := cs.drop name.length
    if inAttribute && goesOn rest then plain false cs else ⟨true, chars, rest⟩

/-- A reference by name. -/
def readName (inAttribute : Bool) (cs : List Char) : Reference :=
  match cs.dropWhile Char.isAlphanum with
  | ';' :: rest =>
    match character? (String.ofList (cs.takeWhile Char.isAlphanum)) with
    | some chars => ⟨false, chars, rest⟩
    | none => readBare inAttribute cs
  | _ => readBare inAttribute cs

/-! ### Either -/

/-- What an ampersand stands for before this text. -/
def read (inAttribute : Bool) : List Char → Reference
  | '#' :: 'x' :: cs => readDigits 16 isHexDigit ('#' :: 'x' :: cs) cs
  | '#' :: 'X' :: cs => readDigits 16 isHexDigit ('#' :: 'X' :: cs) cs
  | '#' :: cs => readDigits 10 Char.isDigit ('#' :: cs) cs
  | c :: cs => if c.isAlphanum then readName inAttribute (c :: cs) else plain false (c :: cs)
  | [] => plain false []

/-- A text with its references replaced, within a bound on their number. -/
def expandWithin (inAttribute : Bool) : Nat → List Char → List Char
  | 0, cs => cs
  | n + 1, cs =>
    match cs.dropWhile (· != '&') with
    | '&' :: r =>
      let ref := read inAttribute r
      cs.takeWhile (· != '&') ++ ref.chars ++ expandWithin inAttribute n ref.rest
    | _ => cs

/-- An attribute value with its references replaced. -/
def expand (cs : List Char) : List Char := expandWithin true (cs.count '&') cs

end Reference
end Html
end MarkupSearch
