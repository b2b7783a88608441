import DotJs.Text

/-!
# Lines and columns

A byte offset of a text as a line and a column, both counted from one. Only line
feeds end lines, and columns count bytes. An offset beyond the end is the end.
-/

namespace DotJs

/-- A place in a text, as editors and reports name it. Nothing keeps a column within its line: a
`Position` is only ever made by `Text.position`. -/
structure Position where
  /-- the line, from one -/
  line : Nat
  /-- the byte of the line, from one -/
  column : Nat
  deriving DecidableEq, Repr

namespace Position

/-- The place `n` bytes behind this one, along the text that follows it. An offset inside a
character counts the bytes of it that are passed, and one behind the end is taken for the end, so
that every number is an offset. -/
def advance (p : Position) : Nat → Text → Position
  | _, [] => p
  | n, c :: rest =>
    if n < c.utf8Size then
      { p with column := p.column + n }
    else if c = '\n' then
      advance ⟨p.line + 1, 1⟩ (n - c.utf8Size) rest
    else
      advance { p with column := p.column + c.utf8Size } (n - c.utf8Size) rest

end Position

/-- The place of a byte offset in a text, counted from line 1 and column 1. The line and the column
of an `Edit` are those of its `span.start`. -/
def Text.position (source : Text) (offset : Nat) : Position :=
  Position.advance ⟨1, 1⟩ offset source

end DotJs
