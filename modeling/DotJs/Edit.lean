import DotJs.Program
import DotJs.StringLiteral

/-!
# Edits

An edit is one rewritten specifier: where it stood, what stood there and what is
to stand there. `spliced` carries a list of edits out on a text. It goes through
the list once, with a cursor behind the last piece taken over, and skips every
edit that starts before the cursor, ends beyond the text or ends before it
starts. An edit that is not skipped has to start and end between characters.
-/

namespace DotJs

/-- One rewritten specifier. An edit has all that a report says of it, so that nothing has to be
looked up in the source again; `spliced` needs only `span` and `replacement`. -/
structure Edit where
  /-- the kind of place -/
  kind : ModuleKind
  /-- why it is rewritten -/
  verdict : Verdict
  /-- the quotes of the literal -/
  quote : QuoteStyle
  /-- the place of the literal -/
  span : Span
  /-- the line on which the literal starts -/
  line : Nat
  /-- the column at which the literal starts -/
  column : Nat
  /-- the text of the literal -/
  original : Text
  /-- the text that takes its place -/
  replacement : Text
  deriving DecidableEq, Repr

/-- Carries out edits on the part of a text of `size` bytes that starts at byte `cursor`. The cursor
stands behind the last span that was taken, and an edit whose span does not lie behind it is passed
over. There is no result when an edit that is taken starts or ends inside a character. -/
def splicedFrom (size : Nat) : (cursor : Nat) → (rest : Text) → List Edit → Option Text
  | _, rest, [] => some rest
  | cursor, rest, e :: edits =>
    if e.span.start < cursor ∨ size < e.span.stop ∨ e.span.stop < e.span.start then
      splicedFrom size cursor rest edits
    else
      match Text.cut? (e.span.start - cursor) rest with
      | none => none
      | some (kept, rest) =>
        match Text.cut? (e.span.stop - e.span.start) rest with
        | none => none
        | some (_, rest) =>
          (splicedFrom size e.span.stop rest edits).map (kept ++ e.replacement ++ ·)

/-- The text with each edit's `replacement` in place of its `span`. The edits are taken in the order
of the list, which `Program.rewritten` makes that of the source. -/
def spliced (source : Text) (edits : List Edit) : Option Text :=
  splicedFrom source.size 0 source edits

end DotJs
