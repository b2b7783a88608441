import DotJs.FilePath

/-!
# Glob patterns

The patterns of files that a project passes over. A pattern is held against the whole
text of a path:

* `?` stands for any character and `*` for any text, slashes included;
* `**` stands for any number of whole components and has to be one itself;
* `[…]` stands for one of some characters, `[!…]` for any other.

A text with a misplaced `**`, with more than two stars in a row or with a bracket that
does not end is no pattern.

Matching goes through the pattern and keeps what can be left of the text, the longest
rest first.
-/

namespace DotJs

namespace Glob

/-- One part of a pattern. `sequence` and `components` are the two that can stand for more than one
character; the others are told by the characters that they admit (`Token.admits`). -/
inductive Token where
  /-- this character -/
  | char (c : Char)
  /-- any character -/
  | any
  /-- a character between two others, both included, for one of the pairs -/
  | within (ranges : List (Char × Char))
  /-- a character between none of the pairs -/
  | except (ranges : List (Char × Char))
  /-- any text -/
  | sequence
  /-- any number of components with their slashes, or all the rest -/
  | components
  deriving DecidableEq, Repr

/-- The text between two brackets, when the second one is there. The first character can be a
bracket itself, so that `[]]` stands for a bracket. -/
def bracketText? : Text → Option Text
  | [] => none
  | c :: t => if t.contains ']' then some (c :: t.takeWhile (· ≠ ']')) else none

/-- The ranges that the text between two brackets means, as in `[a-z]`. A dash makes a range only
between two characters, and a single character is the range from itself to itself. -/
def ranges : Text → List (Char × Char)
  | a :: '-' :: b :: t => (a, b) :: ranges t
  | a :: t => (a, a) :: ranges t
  | [] => []

/-- Reads a pattern behind a character, `skip` characters of which belong to what was read already.
Going through the whole text one character at a time keeps the recursion on the text, though
brackets and `**` are read several characters at once. -/
def readTokens : (skip : Nat) → (before : Option Char) → Text → Option (List Token)
  | _, _, [] => some []
  | skip + 1, _, c :: t => readTokens skip (some c) t
  | 0, _, '*' :: '*' :: '*' :: _ => none
  | 0, before, '*' :: '*' :: t =>
    if before.all (· == '/') then
      match t with
      | [] => some [.components]
      | '/' :: t => (readTokens 0 (some '/') t).map (.components :: ·)
      | _ => none
    else
      none
  | 0, _, '*' :: t => (readTokens 0 (some '*') t).map (.sequence :: ·)
  | 0, _, '?' :: t => (readTokens 0 (some '?') t).map (.any :: ·)
  | 0, _, '[' :: '!' :: t =>
    (bracketText? t).bind fun text =>
      (readTokens (text.length + 1) none t).map (.except (ranges text) :: ·)
  | 0, _, '[' :: t =>
    (bracketText? t).bind fun text =>
      (readTokens (text.length + 1) none t).map (.within (ranges text) :: ·)
  | 0, _, c :: t => (readTokens 0 (some c) t).map (.char c :: ·)

/-- Whether a character lies in one of some ranges. A range that runs backwards holds none. -/
def isWithin (ranges : List (Char × Char)) (c : Char) : Bool :=
  ranges.any fun (a, b) => a ≤ c && c ≤ b

/-- Whether a part stands for a single character. The two parts that stand for texts are left to
`Token.left`. -/
def Token.admits (c : Char) : Token → Bool
  | .char c' => c == c'
  | .any => true
  | .within ranges => isWithin ranges c
  | .except ranges => !isWithin ranges c
  | .sequence | .components => false

/-- The rests of a text behind its slashes, the longest first: where a component starts, and so
where `**` can end. -/
def behindSlashes : Text → List Text
  | [] => []
  | c :: t => if c = '/' then t :: behindSlashes t else behindSlashes t

/-- A text and all its shorter rests, down to the empty one: what a `*` can leave. -/
def rests : Text → List Text
  | [] => [[]]
  | c :: t => (c :: t) :: rests t

/-- What can be left behind a part, when one of the given texts is left before it, of which the
first holds all others. Following all rests at once leaves nothing to go back to; that the first
holds all others is why a `*` needs to look at that one only. -/
def Token.left : Token → List Text → List Text
  | _, [] => []
  | .sequence, t :: _ => rests t
  | .components, t :: _ => if t = [] then [[]] else t :: behindSlashes t ++ [[]]
  | token, ts => ts.filterMap fun t =>
    match t with
    | [] => none
    | c :: t => if token.admits c then some t else none

end Glob

/-- A glob pattern. It is what is left of a text that `Glob.parse?` could read. -/
structure Glob where
  /-- its parts in order -/
  tokens : List Glob.Token
  deriving DecidableEq, Repr

namespace Glob

/-- Reads a pattern, or `none` if the text is none. A project passes over such texts without saying
so (`Settings.ignores`). -/
def parse? (text : Text) : Option Glob := (readTokens 0 none text).map Glob.mk

/-- Whether a pattern holds of a whole path: going through its parts with `Token.left`, the empty
rest is among those that can be left at the end. -/
def admits (g : Glob) (path : FilePath) : Bool :=
  (g.tokens.foldl (fun ts token => token.left ts) [path]).contains []

end Glob

end DotJs
