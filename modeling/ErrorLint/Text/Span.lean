/-
This file holds the two ways in which a finding says where it is: a half-open
range of byte offsets, and a line with a column for people. Both columns and
lines start at one, a column counts bytes, and a line ends at a line feed only,
so a carriage return or a Unicode line separator stays inside its line.
-/

namespace ErrorLint

/-- A half-open range of byte offsets. Ranges handed in from outside need not be
in order. -/
structure Span where
  start : Nat
  stop : Nat
  deriving Repr, DecidableEq, Inhabited

/-- A line and a byte column, both counted from one. -/
structure Position where
  line : Nat
  column : Nat
  deriving Repr, DecidableEq, Inhabited

/-- Where a piece of source stands. -/
structure Place where
  span : Span
  position : Position
  deriving Repr, DecidableEq, Inhabited

namespace Position

/-- The first position of a text. -/
def first : Position := ⟨1, 1⟩

/-- Moves past one character. -/
def advance (position : Position) (char : Char) : Position :=
  if char = '\n' then ⟨position.line + 1, 1⟩
  else ⟨position.line, position.column + char.utf8Size⟩

/-- The position `offset` bytes into the text, if the text itself starts at
`position`. -/
def after (position : Position) : List Char → Nat → Position
  | [], offset => ⟨position.line, position.column + offset⟩
  | char :: rest, offset =>
    if offset < char.utf8Size then ⟨position.line, position.column + offset⟩
    else (position.advance char).after rest (offset - char.utf8Size)

/-- The position of a byte offset in a source text. -/
def ofOffset (text : List Char) (offset : Nat) : Position :=
  first.after text offset

/-- Positions are ordered by line and then by column. -/
def le (left right : Position) : Bool :=
  left.line < right.line || (left.line = right.line && left.column ≤ right.column)

end Position

/-- The place that a range of offsets has in a source text. -/
def Place.ofSpan (text : List Char) (span : Span) : Place :=
  ⟨span, Position.ofOffset text span.start⟩

end ErrorLint
