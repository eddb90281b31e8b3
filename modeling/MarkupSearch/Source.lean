/-
# Sources of octets

A source is read piece by piece. Each reading gives octets, is interrupted, or fails; a reading of
no octets is the end. An interrupted reading is tried again, a failure ends the reading of the
source for good, and what is read is the octets of all readings before the end. They are passed on
in blocks: a reading that gives more than a block takes is passed on in several.

Key definitions: `Reading`, `Source`, `Source.readAll`.
Key theorem: `Source.flatten_blocks`.
-/
import MarkupSearch.Failure
import MarkupSearch.Text.Utf8

namespace MarkupSearch

/-- What one reading gives. -/
inductive Reading where
  | octets (bytes : List UInt8)
  | interrupted
  | failed (reason : String)

/-- What a source will give, reading by reading; after that it is at its end. -/
abbrev Source := List Reading

namespace Source

/-- A source that gives one text. -/
def ofText (s : String) : Source := [.octets (Text.octets s)]

/-- The most octets of a block. -/
def blockSize : Nat := 4096

/-- Parts octets into blocks, the first of which has room for some more after those it holds, last
first. -/
def blocksFrom : Nat → List UInt8 → List UInt8 → List (List UInt8)
  | _, block, [] => [block.reverse]
  | 0, block, b :: bytes => block.reverse :: blocksFrom (blockSize - 1) [b] bytes
  | room + 1, block, b :: bytes => blocksFrom room (b :: block) bytes

/-- The blocks of one reading. -/
def blocks (bytes : List UInt8) : List (List UInt8) := blocksFrom blockSize [] bytes

theorem flatten_blocksFrom (room : Nat) (block bytes : List UInt8) :
    (blocksFrom room block bytes).flatten = block.reverse ++ bytes := by
  induction bytes generalizing room block with
  | nil => simp [blocksFrom]
  | cons b bytes ih => cases room <;> simp [blocksFrom, ih]

/-- The blocks of a reading are its octets. -/
@[simp] theorem flatten_blocks (bytes : List UInt8) : (blocks bytes).flatten = bytes :=
  flatten_blocksFrom blockSize [] bytes

/-- Reads a source to its end; the blocks after those read before, last first. -/
def readOnto (read : List (List UInt8)) : Source → Except Failure (List (List UInt8))
  | [] => .ok read.reverse
  | .interrupted :: rest => readOnto read rest
  | .failed reason :: _ => .error (.unreadable reason)
  | .octets [] :: _ => .ok read.reverse
  | .octets bytes :: rest => readOnto ((blocks bytes).reverse ++ read) rest

/-- The octets of a source, in blocks. -/
def readAll (s : Source) : Except Failure (List (List UInt8)) := readOnto [] s

end Source
end MarkupSearch
