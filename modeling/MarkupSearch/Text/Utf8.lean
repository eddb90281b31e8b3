/-
# Reading octets as text

Octets are read as UTF-8, and what is not UTF-8 does not stop the reading: each longest run that
could have begun a character, and each octet that could not, is read as one U+FFFD. The reader
takes one octet at a time and carries what it still owes to the character it has begun.

Octets come in blocks, and text is given on in pieces. A block gives its longest stretches of well
formed text, and each U+FFFD is a piece by itself. A character that began in an earlier block is
finished with a look at no more than four octets from its first on: the whole characters among
these are a piece. Where pieces end does not change the text that they are together.

Key definitions: `Text.Decoder`, `Text.Decoder.push`, `Text.decode`.
Key theorem: `Text.flatten_decode`.
-/

namespace MarkupSearch
namespace Text

/-- A character begun but not finished: the bits read so far, the octets read and still to come, and
the least and greatest octet that may come next. -/
structure Unfinished where
  bits : Nat
  taken : Nat
  left : Nat
  low : Nat
  high : Nat

/-- What an octet begins. -/
inductive Opening where
  | whole (c : Char)
  | part (u : Unfinished)
  | nothing

/-- What the octet of a value begins. -/
def opening (b : Nat) : Opening :=
  if b < 0x80 then .whole (Char.ofNat b)
  else if 0xC2 ≤ b ∧ b ≤ 0xDF then .part ⟨b - 0xC0, 1, 1, 0x80, 0xBF⟩
  else if b = 0xE0 then .part ⟨0, 1, 2, 0xA0, 0xBF⟩
  else if b = 0xED then .part ⟨0xD, 1, 2, 0x80, 0x9F⟩
  else if 0xE1 ≤ b ∧ b ≤ 0xEF then .part ⟨b - 0xE0, 1, 2, 0x80, 0xBF⟩
  else if b = 0xF0 then .part ⟨0, 1, 3, 0x90, 0xBF⟩
  else if 0xF1 ≤ b ∧ b ≤ 0xF3 then .part ⟨b - 0xF0, 1, 3, 0x80, 0xBF⟩
  else if b = 0xF4 then .part ⟨4, 1, 3, 0x80, 0x8F⟩
  else .nothing

/-- The reader of octets. -/
structure Decoder where
  /-- The pieces that are finished, last first. -/
  pieces : List (List Char)
  /-- The piece being read, last character first. -/
  run : List Char
  owed : Option Unfinished
  /-- How many more octets are looked at together with a character from an earlier block. -/
  look : Option Nat

namespace Decoder

def start : Decoder := ⟨[], [], none, none⟩

/-- Ends the piece being read. -/
def cut (d : Decoder) : Decoder :=
  { d with
    pieces := if d.run.isEmpty then d.pieces else d.run.reverse :: d.pieces
    run := []
    look := none }

/-- Reads a character. -/
def give (d : Decoder) (c : Char) : Decoder := { d with run := c :: d.run, owed := none }

/-- Reads U+FFFD for what is no character. -/
def substitute (d : Decoder) : Decoder :=
  { d.cut with pieces := ['\uFFFD'] :: d.cut.pieces, owed := none }

/-- Begins a character. -/
def owe (d : Decoder) (u : Unfinished) : Decoder := { d with owed := some u }

/-- Takes an octet that does not continue a character. -/
def begin (d : Decoder) (octet : UInt8) : Decoder :=
  match opening octet.toNat with
  | .whole c => d.give c
  | .part u => d.owe u
  | .nothing => d.substitute

/-- Counts an octet that is looked at; the piece ends before the first that is not. -/
def lookOn (d : Decoder) : Decoder :=
  match d.look with
  | none => d
  | some 0 => d.cut
  | some (n + 1) => { d with look := some n }

/-- Takes the next octet of a block. -/
def push (d : Decoder) (octet : UInt8) : Decoder :=
  let d := d.lookOn
  match d.owed with
  | none => d.begin octet
  | some u =>
    if u.low ≤ octet.toNat ∧ octet.toNat ≤ u.high then
      let bits := u.bits * 64 + (octet.toNat - 0x80)
      if u.left ≤ 1 then d.give (Char.ofNat bits)
      else d.owe ⟨bits, u.taken + 1, u.left - 1, 0x80, 0xBF⟩
    else d.substitute.begin octet

/-- Takes the next block. -/
def pushBlock (d : Decoder) (block : List UInt8) : Decoder :=
  block.foldl push { d.cut with look := d.owed.map fun u => 4 - u.taken }

/-- The pieces read when no more blocks come. -/
def finish (d : Decoder) : List (List Char) :=
  match d.owed with
  | none => d.cut.pieces.reverse
  | some _ => d.substitute.pieces.reverse

end Decoder

/-- The text that blocks of octets give, in pieces. -/
def decode (blocks : List (List UInt8)) : List (List Char) :=
  (blocks.foldl Decoder.pushBlock .start).finish

/-! ### Blocks do not matter to the text -/

namespace Decoder

/-- All that has been read. -/
def text (d : Decoder) : List Char := d.pieces.reverse.flatten ++ d.run.reverse

/-- Two readers have read the same and owe the same. -/
def Alike (d e : Decoder) : Prop := d.text = e.text ∧ d.owed = e.owed

@[simp] theorem text_cut (d : Decoder) : d.cut.text = d.text := by
  cases h : d.run <;> simp [cut, text, h]

@[simp] theorem owed_cut (d : Decoder) : d.cut.owed = d.owed := rfl

@[simp] theorem text_give (d : Decoder) (c : Char) : (d.give c).text = d.text ++ [c] := by
  simp [give, text]

@[simp] theorem text_substitute (d : Decoder) : d.substitute.text = d.text ++ ['\uFFFD'] := by
  rw [← text_cut d]
  simp [substitute, cut, text]

theorem alike_begin {d e : Decoder} (h : d.text = e.text) (octet : UInt8) :
    (d.begin octet).Alike (e.begin octet) := by
  unfold begin
  cases opening octet.toNat with
  | whole c => exact ⟨by simp [h], rfl⟩
  | part u => exact ⟨h, rfl⟩
  | nothing => exact ⟨by simp [h], rfl⟩

theorem alike_lookOn (d : Decoder) : d.lookOn.Alike d := by
  unfold lookOn
  split
  · exact ⟨rfl, rfl⟩
  · exact ⟨text_cut d, rfl⟩
  · exact ⟨rfl, rfl⟩

/-- What has been read and is owed after an octet hangs on no more than that before it. -/
theorem alike_push {d e : Decoder} (h : d.Alike e) (octet : UInt8) :
    (d.push octet).Alike (e.push octet) := by
  have ht : d.lookOn.text = e.lookOn.text :=
    (alike_lookOn d).1.trans (h.1.trans (alike_lookOn e).1.symm)
  have ho : d.lookOn.owed = e.lookOn.owed :=
    (alike_lookOn d).2.trans (h.2.trans (alike_lookOn e).2.symm)
  simp only [push, ← ho]
  cases d.lookOn.owed with
  | none => exact alike_begin ht _
  | some u =>
    simp only
    split
    · split
      · exact ⟨by simp [ht], rfl⟩
      · exact ⟨ht, rfl⟩
    · exact alike_begin (by simp [ht]) _

theorem alike_foldl_push (octets : List UInt8) {d e : Decoder} (h : d.Alike e) :
    (octets.foldl push d).Alike (octets.foldl push e) := by
  induction octets generalizing d e with
  | nil => exact h
  | cons b octets ih => exact ih (alike_push h b)

/-- A block is read as its octets are. -/
theorem alike_pushBlock {d e : Decoder} (h : d.Alike e) (block : List UInt8) :
    (d.pushBlock block).Alike (block.foldl push e) :=
  alike_foldl_push block ⟨(text_cut d).trans h.1, h.2⟩

theorem alike_foldl_pushBlock (blocks : List (List UInt8)) {d e : Decoder} (h : d.Alike e) :
    (blocks.foldl pushBlock d).Alike (blocks.flatten.foldl push e) := by
  induction blocks generalizing d e with
  | nil => exact h
  | cons block blocks ih =>
    rw [List.flatten_cons, List.foldl_append]
    exact ih (alike_pushBlock h block)

theorem flatten_finish (d : Decoder) :
    d.finish.flatten = d.text ++ if d.owed.isSome then ['\uFFFD'] else [] := by
  have h (e : Decoder) (he : e.run = []) : e.pieces.reverse.flatten = e.text := by simp [text, he]
  cases ho : d.owed with
  | none => simp [finish, ho, h d.cut rfl]
  | some u => simp [finish, ho, h d.substitute rfl]

end Decoder

/-- **The text hangs on the octets alone.** However these come in blocks, the pieces together are
the same text. -/
theorem flatten_decode (blocks : List (List UInt8)) :
    (decode blocks).flatten = (decode [blocks.flatten]).flatten := by
  have h := Decoder.alike_foldl_pushBlock blocks (d := .start) ⟨rfl, rfl⟩
  have h1 := Decoder.alike_foldl_pushBlock [blocks.flatten] (d := .start) ⟨rfl, rfl⟩
  rw [List.flatten_singleton] at h1
  simp only [decode, Decoder.flatten_finish, h.1, h.2, h1.1, h1.2]

/-- The octets of a text. -/
def octets (s : String) : List UInt8 :=
  s.toUTF8.toList

end Text
end MarkupSearch
