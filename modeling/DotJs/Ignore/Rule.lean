import DotJs.FileSystem
import DotJs.Ignore.Wildcard

/-!
# Rules of ignore files

Each line of an ignore file is a rule: which paths below the file's directory it is
about, and whether they are skipped or kept. The last rule that is about a path decides.

A line that starts with `#` is a comment, one that starts with `!` keeps, and a slash at
the end means directories only. A rule that holds a slash elsewhere is about paths as
seen from the file's directory; any other is about names at any depth. A line with a
pattern that cannot be read is no rule but a `LineFault`.
-/

namespace DotJs.Ignore

/-- What ignore files say about a path. They can also say nothing, which is `none` where a
`Decision` is asked for: then it hangs on the name whether a path is looked at. -/
inductive Decision where
  /-- it is passed over -/
  | skip
  /-- it is looked at, even if hidden -/
  | keep
  deriving DecidableEq, Repr

/-- One rule. Its pattern was turned into an expression that has to hold of the whole path
(`wildcardRegex`); the rest of the line is in the two other fields. -/
structure Rule where
  /-- what the bytes of a path have to look like -/
  regex : Regex
  /-- what is decided -/
  decision : Decision
  /-- whether only directories are meant -/
  directoriesOnly : Bool
  deriving DecidableEq, Repr

namespace Rule

/-- Drops white space at the end, of any kind and not only blanks. -/
def trimmed (line : Text) : Text := (line.reverse.dropWhile Unicode.isWhiteSpace).reverse

/-- Takes the slash at the end off, and a backslash before it. That there was one stays known as
`Rule.directoriesOnly`. -/
def withoutSlash (pattern : Text) : Text :=
  match pattern.reverse with
  | '/' :: '\\' :: t => t.reverse
  | '/' :: t => t.reverse
  | _ => pattern

/-- Whether a text ends in another one, told by the start of its reverse. -/
def endsWith (ending text : Text) : Bool := ending.reverse.isPrefixOf text.reverse

/-- The pattern of a rule in full: with `**/` in front if it is about names at any depth, and about
what lies below a directory if it ends so. `**` alone is about everything as it stands. -/
def fullPattern (isAnchored : Bool) (pattern : Text) : Text :=
  let pattern :=
    if isAnchored || pattern.contains '/' || pattern == "**".toList then pattern
    else "**/".toList ++ pattern
  if endsWith "/**".toList pattern then pattern ++ "/*".toList else pattern

/-- The rule with a given pattern. `isAnchored` says that a slash stood in front of it, which makes
it one about paths as seen from the file's directory. -/
def ofPattern (decision : Decision) (isAnchored : Bool) (pattern : Text) :
    Except Wildcard.Fault Rule :=
  (wildcardRegex (fullPattern isAnchored (withoutSlash pattern))).map fun regex =>
    { regex, decision, directoriesOnly := pattern.getLast? == some '/' }

/-- A line without the white space at its end, which does not count unless a backslash stands before
it. Faults name the line in this form (`LineFault`). -/
def written (line : Text) : Text :=
  if endsWith "\\ ".toList line then line else trimmed line

/-- The rule that a line asks for, if it asks for one: empty lines and comments do not. Behind a
backslash, `!` and `#` are the start of a pattern like any other character. -/
def ofLine? (line : Text) : Option (Except Wildcard.Fault Rule) :=
  match written line with
  | [] => none
  | '#' :: _ => none
  | '\\' :: '!' :: t => some (ofPattern .skip false ('!' :: t))
  | '\\' :: '#' :: t => some (ofPattern .skip false ('#' :: t))
  | '!' :: '/' :: t => some (ofPattern .keep true t)
  | '!' :: t => some (ofPattern .keep false t)
  | '/' :: t => some (ofPattern .skip true t)
  | t => some (ofPattern .skip false t)

/-- The rules of some lines. Lines that cannot be read are passed over here; `faults` lists them. -/
def ofLines (lines : List Text) : List Rule :=
  lines.filterMap fun line =>
    match ofLine? line with
    | some (.ok r) => some r
    | _ => none

/-- Whether a rule is about a path, given by its components. The expression is searched for among
the bytes of the path, since a `?` stands for one of these. -/
def isAbout (r : Rule) (path : List Text) (isDirectory : Bool) : Bool :=
  (isDirectory || !r.directoriesOnly)
    && r.regex.isFoundIn (Wildcard.bytes (Text.join ['/'] path))

end Rule

/-- What some rules say about a path: what the last one about it says, so that a later line (`!`)
can take back an earlier one. -/
def decide? (rules : List Rule) (path : List Text) (isDirectory : Bool) : Option Decision :=
  (rules.reverse.find? fun r => r.isAbout path isDirectory).map (·.decision)

/-! ## Ignore files -/

/-- A line of an ignore file whose pattern cannot be read. Other lines of the file count all the
same. -/
structure LineFault where
  /-- the number of the line, counted from one -/
  number : Nat
  /-- the line -/
  line : Text
  /-- what is wrong with it -/
  fault : Wildcard.Fault
  deriving DecidableEq, Repr

/-- The wording of a fault, with the number of the line and the line as it was `written`. -/
def LineFault.message (f : LineFault) : Text :=
  "line ".toList ++ Text.ofNat f.number ++ ": error parsing glob '".toList ++ f.line
    ++ "': ".toList ++ f.fault.message

/-- The faults of some lines, the first of which has a given number. They are the lines that
`Rule.ofLines` passes over. -/
def faults : (number : Nat) → (lines : List Text) → List LineFault
  | _, [] => []
  | n, line :: rest =>
    match Rule.ofLine? line with
    | some (.error fault) => ⟨n, Rule.written line, fault⟩ :: faults (n + 1) rest
    | _ => faults (n + 1) rest

/-- Takes `x` off the end of every list but the last: `piecesBetween` leaves the carriage returns of
line ends in the lines before them. -/
def dropEnds {α : Type} [DecidableEq α] (x : α) : List (List α) → List (List α)
  | [] => []
  | [last] => [last]
  | line :: rest => (if line.getLast? = some x then line.dropLast else line) :: dropEnds x rest

/-- The texts of some lines up to the first that is none: a file that stops being a text has rules
up to there. -/
def textsOf : List (List UInt8) → List Text
  | [] => []
  | bytes :: rest =>
    match String.fromUTF8? (ByteArray.mk bytes.toArray) with
    | some s => s.toList :: textsOf rest
    | none => []

/-- The lines of an ignore file, without a mark of the byte order. A carriage return before a line
feed does not belong to the line. A file that is no text has the lines before the first that is
none. -/
def linesOf : Content → List Text
  | .text t => dropEnds '\r' (piecesBetween '\n' (t.dropWhile (· == '\uFEFF')))
  | .binary bytes =>
    match textsOf (dropEnds 13 (piecesBetween 10 bytes)) with
    | [] => []
    | first :: rest => first.dropWhile (· == '\uFEFF') :: rest

end DotJs.Ignore
