import DotJs.Text

/-!
# File paths

A path is a text. What it denotes is its list of components: slashes separate
them, doubled and trailing slashes and inner `.` components do not count. Two
paths are the same path when their components are, and paths are ordered by
them, so that everything below a directory stays together.

The text of a path is kept all the same, because reports print it. Taking a
directory off the front of a path therefore works on the text, with the
components as its guide.
-/

namespace DotJs

/-- One component of a path. The two that can only open a path, `root` and `current`, are components
as well, so that `/a`, `./a` and `a` are three different paths. -/
inductive Component where
  /-- the slash that opens an absolute path -/
  | root
  /-- a `.` that opens a relative path -/
  | current
  /-- `..` -/
  | parent
  /-- any other name -/
  | name (text : Text)
  deriving DecidableEq, Repr

namespace Component

/-- The component that stands between two slashes, if it counts. The empty segment and `.` do not;
where a `.` opens a path, `FilePath.opening?` counts it. -/
def ofSegment? : Text → Option Component
  | [] => none
  | ['.'] => none
  | ['.', '.'] => some .parent
  | text => some (.name text)

/-- The rank of a component's kind, by which components of different kinds are ordered: what opens a
path first, a `name` last. -/
def rank : Component → Nat
  | .root => 0
  | .current => 1
  | .parent => 2
  | .name _ => 3

end Component

/-- Compares texts character by character; the shorter of two that agree comes first. For
characters, the order of their numbers is that of their bytes, so that this is also the order of the
UTF-8 forms (`String.utf8EncodeChar`). -/
def Text.compare : Text → Text → Ordering
  | [], [] => .eq
  | [], _ :: _ => .lt
  | _ :: _, [] => .gt
  | a :: s, b :: t =>
    if a.toNat < b.toNat then .lt else if b.toNat < a.toNat then .gt else Text.compare s t

/-- Compares components: by kind (`Component.rank`), and names by their text (`Text.compare`). -/
def Component.compare : Component → Component → Ordering
  | .name a, .name b => Text.compare a b
  | a, b => if a.rank < b.rank then .lt else if b.rank < a.rank then .gt else .eq

/-- A path: its text. Equality of paths is equality of texts, and `FilePath.same` is the coarser
one; both are needed, as reports print what was given. -/
abbrev FilePath := Text

namespace FilePath

/-- The texts between the slashes of a path, the empty ones included. `FilePath.components` leaves
those out that do not count. -/
def segments (path : FilePath) : List Text := piecesBetween '/' path

/-- Whether a path is absolute, that is, starts with a slash. `join` keeps such a path as it is. -/
def isAbsolute : FilePath → Bool
  | '/' :: _ => true
  | _ => false

/-- What opens a path and is no name: the root slash, or a `.` that is a whole segment. Such a `.`
counts as a component here and nowhere else. -/
def opening? : FilePath → Option Component
  | '/' :: _ => some .root
  | ['.'] => some .current
  | '.' :: '/' :: _ => some .current
  | _ => none

/-- The components of a path: what opens it (`opening?`) and the `segments` that count. All that is
compared of paths is compared of these lists. -/
def components (path : FilePath) : List Component :=
  (opening? path).toList ++ (segments path).filterMap Component.ofSegment?

/-- Compares lists of components by the first that differ (`Component.compare`); a list comes before
those that it is the start of, so that a directory comes before what is in it. -/
def compareComponents : List Component → List Component → Ordering
  | [], [] => .eq
  | [], _ :: _ => .lt
  | _ :: _, [] => .gt
  | a :: s, b :: t =>
    match a.compare b with
    | .eq => compareComponents s t
    | order => order

/-- The order of paths: that of their `components`. Paths below one directory are neighbours in it,
which they need not be in the order of texts. -/
def compare (a b : FilePath) : Ordering := compareComponents (components a) (components b)

/-- Whether a path comes before another or is the same: `FilePath.compare` as the order of
`stableSort`. -/
def le (a b : FilePath) : Bool := compare a b != .gt

/-- Whether two paths have the same components. It says nothing about where they lead: `a/../b` and
`b` are two paths. -/
def same (a b : FilePath) : Bool := components a == components b

/-- The last component of a path, when it is a name: `a/..` and `/` have none. -/
def fileName? (path : FilePath) : Option Text :=
  match (components path).getLast? with
  | some (.name text) => some text
  | _ => none

/-- Splits a reversed name at its last dot: the reversed part before it and the part behind it. A
dot that opens the name does not count, so that `.profile` has no extension. -/
def splitReversed : (behind : Text) → Text → Option (Text × Text)
  | _, [] => none
  | behind, c :: before =>
    if c = '.' then
      if before = [] then none else some (before, behind)
    else
      splitReversed (c :: behind) before

/-- The file name of a path, cut at its last dot: `a.d.ts` into `a.d` and `ts`. It is about files,
and differs from the `extension` of a specifier, which is a text before it is a path. -/
def stemAndExtension? (path : FilePath) : Option (Text × Text) :=
  (fileName? path).bind fun name =>
    (splitReversed [] name.reverse).map fun (stem, extension) => (stem.reverse, extension)

/-- What a path means in a directory: an absolute one means itself, and any other is put behind the
directory as a text, with one slash between them. Nothing is simplified, so that `..` in it stays
for `FileSystem.resolve`. -/
def join (directory path : FilePath) : FilePath :=
  if isAbsolute path then path
  else if directory = [] then path
  else if directory.getLast? = some '/' then directory ++ path
  else directory ++ '/' :: path

/-! ## Taking off a directory -/

/-- Drops slashes and `.` segments from the front of a text that starts a segment, up to the first
name or `..`. -/
def dropLeading : Text → Text
  | [] => []
  | ['.'] => []
  | '/' :: t => dropLeading t
  | '.' :: '/' :: t => dropLeading t
  | t => t

/-- Drops slashes and `.` segments from the front of a reversed text. A `.` is a segment of its own
only between slashes, as the end of `a/.` is and that of `a.` is not. -/
def dropTrailing : Text → Text
  | '/' :: t => dropTrailing t
  | '.' :: '/' :: t => dropTrailing t
  | t => t

/-- The text of a path less what does not count at its end. What opens the path is kept apart, as
`/` and `.` count where they open one. -/
def trimmedEnd (path : FilePath) : FilePath :=
  match path with
  | '/' :: rest => '/' :: trimBody rest
  | '.' :: '/' :: rest => '.' :: trimBody ('/' :: rest)
  | ['.'] => ['.']
  | body => trimBody body
where
  /-- Trims a text that does not open a path. -/
  trimBody (body : Text) : Text :=
    match dropTrailing body.reverse with
    | ['.'] => []
    | kept => kept.reverse

/-- Takes the segment at the front of a text off, with the slash behind it. -/
def dropSegment : Text → Text
  | [] => []
  | c :: t => if c = '/' then t else dropSegment t

/-- The text that is left of a path when its first `n` components, of which the first may be an
opening one, are taken off. It works on the text because a report prints what was given: slashes
that are doubled further down stay doubled. -/
def dropComponents (path : FilePath) : Nat → FilePath
  | 0 => trimmedEnd path
  | n + 1 =>
    match opening? path with
    | some _ => body n (path.drop 1)
    | none => body (n + 1) path
where
  /-- Takes `n` names off the front. -/
  body : Nat → Text → Text
    | 0, t => trimmedEnd.trimBody (dropLeading t)
    | n + 1, t => body n (dropSegment (dropLeading t))

/-- Whether the components of `directory` are the first of `path`. A directory is below itself. -/
def isBelow (directory path : FilePath) : Bool :=
  (components directory).isPrefixOf (components path)

/-- The path of a file as seen from a directory, when it lies in it (`FilePath.isBelow`). What is
above or beside the directory has no such path, however few `..` would lead there. -/
def relativeTo? (directory path : FilePath) : Option FilePath :=
  if isBelow directory path then
    some (dropComponents path (components directory).length)
  else
    none

end FilePath

end DotJs
