import DotJs.Text

/-!
# The extension of a path

The extension of a path is the part of its last segment from the last dot on.
Slashes at the end of the path do not count, a dot that opens the segment does
not start an extension (`.profile`), and the segment `..` has none.

The segment is read once, from its right end: `Scan` is what has been learnt so
far. A scan that has passed a dot keeps the extension it found and collects what
stands before it, because the two exceptions are about that part.
-/

namespace DotJs

namespace Extension

/-- What a reader who goes through a path from the right knows. It has a state of its own for
slashes at the end, which do not count, and one for what stands before the last dot, on which it
hangs whether this dot starts an extension at all. -/
inductive Scan where
  /-- nothing but slashes so far -/
  | slashes
  /-- in the last segment, whose characters so far hold no dot -/
  | plain (read : Text)
  /-- in the last segment, before its last dot -/
  | dotted (extension before : Text)
  deriving DecidableEq, Repr

/-- One more character of the last segment. Only the first dot that is met turns a `plain` scan into
a `dotted` one: the later ones belong to the part before the extension. -/
def Scan.push (c : Char) : Scan → Scan
  | .slashes => if c = '.' then .dotted ['.'] [] else .plain [c]
  | .plain read => if c = '.' then .dotted ('.' :: read) [] else .plain (c :: read)
  | .dotted extension before => .dotted extension (c :: before)

/-- Reads a reversed path up to the slash before its last segment, where a scan that has found the
segment stops; `Scan.push` is one step. What stands before that slash is never looked at. -/
def Scan.run : Scan → Text → Scan
  | scan, [] => scan
  | scan, c :: rest =>
    if c = '/' then
      match scan with
      | .slashes => run .slashes rest
      | found => found
    else
      run (scan.push c) rest

/-- The extension that a finished scan has found. A dot that opens the segment (`.profile`) and the
second dot of `..` start none, while that of `a.` is an extension by itself. -/
def Scan.result : Scan → Text
  | .slashes => []
  | .plain _ => []
  | .dotted extension before =>
    if before = [] ∨ (before = ['.'] ∧ extension = ['.']) then [] else extension

end Extension

/-- The extension of a path, with its dot, or the empty text. Reading the reversed path leaves the
work to one `Scan`, whose states are the cases of proofs about extensions. -/
def extension (path : Text) : Text :=
  (Extension.Scan.run .slashes path.reverse).result

end DotJs
