import DotJs.Regex.Reader

/-!
# Classes in brackets

A class in brackets lists characters, ranges, escapes and further classes. Three
operators of two characters each join what stands on their sides; all of them bind
alike and group to the left.
-/

namespace DotJs.Regex

open Reader

/-- The operators between the parts of a class: `&&`, `--` and `~~`. None binds tighter than another
one. -/
inductive SetOperator where
  /-- what both sides have -/
  | inter
  /-- what only the left side has -/
  | diff
  /-- what exactly one side has -/
  | either
  deriving DecidableEq, Repr

/-- A class as far as it was read. Operators group to the left, so that there is at most one of them
`pending`, with all that stands before it. -/
structure OpenClass where
  /-- whether it is negated -/
  negated : Bool
  /-- the part before the last operator, and the operator -/
  pending : Option (CharSet × SetOperator)
  /-- the part behind the last operator -/
  part : CharSet
  /-- the number of members of that part -/
  members : Nat
  /-- how deep classes are nested in it -/
  depth : Nat
  deriving DecidableEq, Repr

namespace OpenClass

/-- The class with one more member behind the last operator. -/
def add (o : OpenClass) (s : CharSet) : OpenClass :=
  { o with part := .union o.part s, members := o.members + 1 }

/-- The parts so far, joined by the operator between them. Letters are folded on either side of an
operator first (`finishSet`). -/
def joined (flags : Flags) (o : OpenClass) : CharSet :=
  match o.pending with
  | none => o.part
  | some (left, operator) =>
    let left := finishSet flags false left
    let right := finishSet flags false o.part
    match operator with
    | .inter => .inter left right
    | .diff => .diff left right
    | .either => .either left right

/-- The depth of nesting with the current part, which has a level of its own when it has two members
or more. -/
def partDepth (o : OpenClass) : Nat := o.depth + (if 2 ≤ o.members then 1 else 0)

/-- The class behind a `SetOperator`, whose left side is all that was read before. -/
def operator (flags : Flags) (o : OpenClass) (op : SetOperator) : OpenClass :=
  { o with pending := some (o.joined flags, op), part := .nothing, members := 0,
           depth := o.partDepth + 1 }

end OpenClass

/-- The ranges of a class that has a name between colons, as `alpha` in `[:alpha:]`. -/
def asciiClass (name : Text) : Option CharSet :=
  (table.find? fun (n, _) => n.toList = name).map fun (_, ranges) => .ofRanges ranges
where
  /-- The names and their ranges. -/
  table : List (String × List (Char × Char)) :=
    [("alnum", [('0', '9'), ('A', 'Z'), ('a', 'z')]), ("alpha", [('A', 'Z'), ('a', 'z')]),
     ("ascii", [('\x00', '\x7f')]), ("blank", [('\t', '\t'), (' ', ' ')]),
     ("cntrl", [('\x00', '\x1f'), ('\x7f', '\x7f')]), ("digit", [('0', '9')]),
     ("graph", [('!', '~')]), ("lower", [('a', 'z')]), ("print", [(' ', '~')]),
     ("punct", [('!', '/'), (':', '@'), ('[', '\x60'), ('\x7b', '~')]),
     ("space", [('\t', '\r'), (' ', ' ')]), ("upper", [('A', 'Z')]),
     ("word", [('0', '9'), ('A', 'Z'), ('_', '_'), ('a', 'z')]),
     ("xdigit", [('0', '9'), ('A', 'F'), ('a', 'f')])]

/-- A class with a name between colons, if one starts here (`asciiClass`). What looks like one and
has an unknown name is a class in brackets of its own. -/
def takeAsciiClass : Reader (Option CharSet) := do
  match ← rest with
  | '[' :: ':' :: text =>
    let (negated, text) := match text with
      | '^' :: text => (true, text)
      | text => (false, text)
    let name := text.takeWhile (· != ':')
    match text.drop name.length, asciiClass name with
    | ':' :: ']' :: behind, some s =>
      modify fun r => { r with rest := behind }
      ensure ((← flags).unicode || !negated)
      return some (finishSet (← flags) negated s)
    | _, _ => return none
  | _ => return none

/-- Opens a class (`[`): the negation, dashes and a bracket that come first are no operators. -/
def openClass : Reader OpenClass := do
  dropWithSpace
  let negated := (← next) == '^'
  if negated then dropWithSpace
  ensure ((← flags).unicode || !negated)
  let dashes ← takeSpaced (· == '-')
  let o : OpenClass := ⟨negated, none, .nothing, 0, 0⟩
  let o := dashes.foldl (fun o c => o.add (.single c)) o
  let c ← next
  if dashes.isEmpty && c == ']' then
    dropWithSpace
    let _ ← next
    return o.add (.single c)
  return o

/-- A member of a class, which may be the start of a range. -/
def classItem : Reader Primitive := do
  let c ← next
  if c = '\\' then
    escapeSequence
  else
    drop 1
    return .literal c false

/-- The character of a member that has to be one. Outside of Unicode it has to be one of ASCII. -/
def classLiteral (p : Primitive) : Reader Char := do
  match p with
  | .literal c _ =>
    ensure ((← flags).unicode || c.toNat < 128)
    return c
  | _ => refuse

/-- The `CharSet` of a member that is no range. A question about the place has no place in a
class. -/
def classMember (p : Primitive) : Reader CharSet := do
  match p with
  | .set s => return s
  | .look _ => refuse
  | p => return .single (← classLiteral p)

/-- Whether a dash here opens the end of a range: neither the class ends behind it nor does it
belong to an operator. -/
def opensRange : Reader Bool := do
  match ← rest with
  | '-' :: behind =>
    let behind := if (← flags).spaced then dropBlanks false behind else behind
    return behind.head? != some ']' && behind.head? != some '-'
  | _ => return false

/-- A member of a class (`classItem`), or a range, whose ends have to be characters in the right
order. -/
def classRange : Reader CharSet := do
  let first ← classItem
  skipSpace
  let _ ← next
  if ← opensRange then
    dropWithSpace
    let _ ← next
    let first ← classLiteral first
    let last ← classLiteral (← classItem)
    ensure (first ≤ last)
    return .range first.toNat last.toNat
  classMember first

/-- The operator that starts here, if one does: each is written as the same character twice. -/
def setOperator? (text : Text) : Option SetOperator :=
  match text with
  | '&' :: '&' :: _ => some .inter
  | '-' :: '-' :: _ => some .diff
  | '~' :: '~' :: _ => some .either
  | _ => none

/-- A class in brackets, and how deep classes are nested in it, which counts towards the depth of
the pattern. -/
structure ClassRead where
  /-- the set -/
  set : CharSet
  /-- the depth of nesting, the class itself included -/
  depth : Nat
  deriving DecidableEq, Repr

/-- Reads a class to its closing bracket, which is not taken as a member. Each step takes a
character, so that the number of characters bounds the steps; a class inside is read by the same
function, and its end is not known before. -/
def readClass : (steps : Nat) → OpenClass → Reader ClassRead
  | 0, _ => refuse
  | steps + 1, o => do
    skipSpace
    match ← next with
    | '[' =>
      match ← takeAsciiClass with
      | some s => readClass steps (o.add s)
      | none =>
        let inner ← readClass steps (← openClass)
        readClass steps { o.add inner.set with depth := max o.depth inner.depth }
    | ']' =>
      drop 1
      let flags ← flags
      return ⟨finishSet flags o.negated (o.joined flags), o.partDepth + 1⟩
    | _ =>
      match setOperator? (← rest) with
      | some op =>
        drop 2
        readClass steps (o.operator (← flags) op)
      | none => readClass steps (o.add (← classRange))

/-- A class, from its opening bracket on (`readClass`). -/
def bracketClass : Reader ClassRead := do
  let o ← openClass
  readClass (← rest).length o

end DotJs.Regex
