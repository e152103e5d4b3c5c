/-
This file tells how the characters of a set are written in bytes. A range of characters
is cut into pieces whose encodings form a product: each byte of them runs through a
range of its own, whatever the other bytes are. So a set is a list of sequences of
ranges of bytes, in ascending order.
-/

import ErrorLint.Unicode.CharSet

namespace ErrorLint.Pattern

open Unicode (CharSet Range)

/-- The bytes of a code point in UTF-8. -/
def encode (code : Nat) : List Nat :=
  if code < 0x80 then [code]
  else if code < 0x800 then [0xC0 + code / 64, 0x80 + code % 64]
  else if code < 0x10000 then [0xE0 + code / 4096, 0x80 + code / 64 % 64, 0x80 + code % 64]
  else [0xF0 + code / 262144, 0x80 + code / 4096 % 64, 0x80 + code / 64 % 64, 0x80 + code % 64]

/-- The bytes of a text in UTF-8. -/
def encodeAll (chars : List Char) : List Nat := chars.flatMap fun char => encode char.toNat

/-- The bytes from `first` to `last`. -/
structure ByteRange where
  first : Nat
  last : Nat
  deriving Repr, DecidableEq

/-- Where a range is cut in two, if its encodings are no product: the last code point of the
left part and the first of the right one. Surrogates and code points of different lengths
are kept apart first; then the part before or after a whole block of `64`, `64²` or `64³`
code points is cut off. -/
def cut? (range : Range) : Option (Nat × Nat) :=
  let byBlock (size : Nat) : Option (Nat × Nat) :=
    if range.first / size = range.last / size then none
    else if range.first % size ≠ 0 then
      some ((range.first / size + 1) * size - 1, (range.first / size + 1) * size)
    else if range.last % size ≠ size - 1 then
      some (range.last / size * size - 1, range.last / size * size)
    else none
  let byLength (last : Nat) : Option (Nat × Nat) :=
    if range.first ≤ last && last < range.last then some (last, last + 1) else none
  if range.first < 0xE000 && 0xD7FF < range.last then some (0xD7FF, 0xE000)
  else if range.last < 0x80 then none
  else
    [byLength 0x7F, byLength 0x7FF, byLength 0xFFFF, byBlock 64, byBlock 4096,
      byBlock 262144].firstM id

/-- The pieces of a range. No range is cut more often than `fuel` times one after the
other. -/
def piecesOf : (fuel : Nat) → Range → List Range
  | 0, range => [range]
  | fuel + 1, range =>
    match cut? range with
    | none => [range]
    | some (leftLast, rightFirst) =>
      piecesOf fuel ⟨range.first, leftLast⟩ ++ piecesOf fuel ⟨rightFirst, range.last⟩

/-- The ranges of bytes of a piece. -/
def bytesOf (piece : Range) : List ByteRange :=
  (encode piece.first).zipWith ByteRange.mk (encode piece.last)

/-- The sequences of ranges of bytes of a set. -/
def sequencesOf (set : CharSet) : List (List ByteRange) :=
  (set.ranges.flatMap (piecesOf 32)).map bytesOf

end ErrorLint.Pattern
