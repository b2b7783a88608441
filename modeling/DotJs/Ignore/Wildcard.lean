import DotJs.Regex.Matching

/-!
# Wildcards of ignore files

A line of an ignore file asks for paths by wildcards. They are turned into a regular
expression that has to hold of the whole path, byte by byte:

* `?` stands for a byte other than a slash and `*` for any number of them;
* `**` that is a whole component stands for any number of components;
* `[…]` stands for one of some bytes, `[!…]` and `[^…]` for any other; a bracket that
  does not end stands for itself;
* `{a,b}` stands for either text;
* a backslash takes the special meaning from the next character.

The text is first cut into symbols, so that escapes and brackets are out of the way
when stars are looked at.
-/

namespace DotJs.Ignore

open Regex (CharSet)

namespace Wildcard

/-- Why a text is no pattern. Only these four are told; a bracket that does not end is none of them,
as it stands for itself. -/
inductive Fault where
  /-- a range in a bracket ends before it starts -/
  | invalidRange (first last : Char)
  /-- nothing follows a backslash -/
  | danglingBackslash
  /-- a closing brace stands alone -/
  | unopenedGroup
  /-- an opening brace stands alone -/
  | unclosedGroup
  deriving DecidableEq, Repr

/-- The wording of a fault, behind the pattern in that of its line (`LineFault.message`). -/
def Fault.message : Fault → Text
  | .invalidRange first last =>
    "invalid range; '".toList ++ first :: "' > '".toList ++ last :: ['\'']
  | .danglingBackslash => "dangling '\\'".toList
  | .unopenedGroup =>
    "unopened alternate group; missing '\x7b' (maybe escape '\x7d' with '[\x7d]'?)".toList
  | .unclosedGroup =>
    "unclosed alternate group; missing '\x7d' (maybe escape '\x7b' with '[\x7b]'?)".toList

/-- One symbol of a line. What a character means hangs on escapes and brackets, and once these are
cut into symbols a star is a star: `readSymbols` needs to look at nothing else. -/
inductive Symbol where
  /-- a character that stands for itself -/
  | char (c : Char)
  /-- a slash without a backslash before it -/
  | slash
  /-- `?` -/
  | question
  /-- `*` -/
  | star
  /-- an opening brace -/
  | opening
  /-- a closing brace -/
  | closing
  /-- `,` -/
  | comma
  /-- a bracket with its ranges -/
  | bracket (negated : Bool) (ranges : List (Char × Char))
  /-- a place from which on the line cannot be read -/
  | fault (f : Fault)
  deriving DecidableEq, Repr

/-- Reads the ranges in a bracket, and counts the characters up to its end, if it has one. The list
is the reversed one of the ranges before, and `isOpen` says that a dash behind the last of them
waits for its end. A bracket at the very start stands for itself. -/
def readRanges : (ranges : List (Char × Char)) → (isOpen : Bool) → (length : Nat) → Text →
    Except Fault (Option (List (Char × Char) × Nat))
  | _, _, _, [] => .ok none
  | [], _, n, c :: t => readRanges [(c, c)] false (n + 1) t
  | r :: ranges, isOpen, n, ']' :: _ =>
    .ok (some (if isOpen then ('-', '-') :: r :: ranges else r :: ranges, n + 1))
  | (a, _) :: ranges, true, n, c :: t =>
    if c < a then .error (.invalidRange a c) else readRanges ((a, c) :: ranges) false (n + 1) t
  | r :: ranges, false, n, '-' :: t => readRanges (r :: ranges) true (n + 1) t
  | r :: ranges, false, n, c :: t => readRanges ((c, c) :: r :: ranges) false (n + 1) t

/-- The symbols of a text, `skip` characters of which belong to what was read already. Once a
bracket has no end, no other one has, and `brackets` tells whether they may: without it, each
bracket of a long line would be looked for up to the end of it. -/
def symbols : (brackets : Bool) → (skip : Nat) → Text → List Symbol
  | _, _, [] => []
  | brackets, skip + 1, _ :: t => symbols brackets skip t
  | _, 0, ['\\'] => [.fault .danglingBackslash]
  | brackets, 0, '\\' :: c :: t => .char c :: symbols brackets 0 t
  | brackets, 0, '/' :: t => .slash :: symbols brackets 0 t
  | brackets, 0, '?' :: t => .question :: symbols brackets 0 t
  | brackets, 0, '*' :: t => .star :: symbols brackets 0 t
  | brackets, 0, '{' :: t => .opening :: symbols brackets 0 t
  | brackets, 0, '}' :: t => .closing :: symbols brackets 0 t
  | brackets, 0, ',' :: t => .comma :: symbols brackets 0 t
  | true, 0, '[' :: t =>
    let negated := t.head? == some '!' || t.head? == some '^'
    match readRanges [] false 0 (if negated then t.tail else t) with
    | .error f => [.fault f]
    | .ok none => .char '[' :: symbols false 0 t
    | .ok (some (ranges, length)) =>
      .bracket negated ranges :: symbols true (length + if negated then 1 else 0) t
  | brackets, 0, c :: t => .char c :: symbols brackets 0 t

/-! ## Bytes -/

/-- The bytes of a character, each as the character of its number, so that a `Regex` over characters
can be one over bytes. -/
def bytesOf (c : Char) : Text := (String.utf8EncodeChar c).map fun b => Char.ofNat b.toNat

/-- The bytes of a text, each as the character of its number (`bytesOf`). -/
def bytes (text : Text) : Text := text.flatMap bytesOf

/-- Any of some bytes. -/
def anyOf (bs : Text) : CharSet := bs.foldr (fun b s => .union (.single b) s) .nothing

/-- The bytes of a range, whose ends are spelt out. Between two characters of several bytes, this is
the set of what can stand where a byte of the range is looked for: a bracket is matched byte by byte
as all else is. -/
def rangeSet (r : Char × Char) : CharSet :=
  let first := bytesOf r.1
  let last := bytesOf r.2
  if r.1 = r.2 then anyOf first
  else
    .union (anyOf first.dropLast)
      (.union (.range ((first.getLast?.map Char.toNat).getD 0) ((last.head?.map Char.toNat).getD 0))
        (anyOf last.tail))

/-! ## Regular expressions -/

/-- Any number of the same, none included, as `*` in a `Regex`. -/
def many (r : Regex) : Regex := .loop r 0 none

/-- Any byte, a slash included: what `**` is made of. -/
def anyByte : Regex := .one (.complement .nothing)

/-- Any byte but a slash: what `*` and `?` are made of, so that neither goes beyond a component. -/
def inName : Regex := .one (.complement (.single '/'))

/-- A slash, as a regular expression. -/
def slash : Regex := .one (.single '/')

/-- A character, byte by byte (`bytesOf`). -/
def charRegex (c : Char) : Regex :=
  (bytesOf c).foldr (fun b r => Regex.followedBy (.one (.single b)) r) .empty

/-- A part of a pattern. The components that `**` stands for take the slashes around it with them,
and the three ways in which they can are told apart: what follows decides which one it is. -/
inductive Piece where
  /-- any other part -/
  | plain (r : Regex)
  /-- components at the start of a pattern -/
  | leading
  /-- components between two others -/
  | inner
  /-- components at the end of a pattern -/
  | trailing
  deriving DecidableEq, Repr

/-- The regular expression of a part (`Piece`). Each of the three kinds of components can stand for
none at all, with its slash. -/
def Piece.regex : Piece → Regex
  | .plain r => r
  | .leading => .either (.loop slash 0 (some 1)) (.andThen (many anyByte) slash)
  | .inner => .either slash (.andThen slash (.andThen (many anyByte) slash))
  | .trailing => .andThen slash (many anyByte)

/-- The parts one after the other, given in reverse. -/
def inOrder (reversed : List Piece) : Regex :=
  reversed.foldl (fun r p => if r = .empty then p.regex else p.regex.followedBy r) .empty

/-- What has been read of a group in braces, or of the whole pattern. Groups can stand inside each
other, so that the open ones are kept as a list of levels. -/
structure Level where
  /-- the alternatives that are complete, in reverse -/
  branches : List Regex
  /-- the parts of the current one, in reverse -/
  pieces : List Piece
  deriving DecidableEq, Repr

/-- Adds a `Piece` to the current alternative. -/
def Level.add (l : Level) (p : Piece) : Level := { l with pieces := p :: l.pieces }

/-- Starts the next alternative, behind a comma in `{a,b}`. -/
def Level.next (l : Level) : Level := ⟨inOrder l.pieces :: l.branches, []⟩

/-- The group of all alternatives. Those that stand for no text do not count, so that `{,a}` stands
for `a` alone. -/
def Level.group (l : Level) : Piece :=
  match l.next.branches.filter (· ≠ .empty) with
  | [] => .plain .empty
  | r :: rs => .plain (rs.foldl (fun r' r => .either r r') r)

/-- Adds the components that `**` stands for behind a slash, which is taken back: the `Piece` has
it. -/
def Level.addComponents (l : Level) (p : Piece) : Level :=
  match l.pieces with
  | .leading :: _ => l
  | .trailing :: _ => l
  | _ :: pieces => { l with pieces := p :: pieces }
  | [] => { l with pieces := [p] }

/-- Two stars that are no component (`a**`) are two stars, each for any text without a slash. -/
def Level.addStars (l : Level) : Level := (l.add (.plain (many inName))).add (.plain (many inName))

/-- Whether `**` in front of some symbols ends a pattern or an alternative, where it stands for all
the rest. -/
def endsBranch (isGroup : Bool) : List Symbol → Bool
  | [] => true
  | .comma :: _ | .closing :: _ => isGroup
  | _ => false

/-- Reads the symbols of a pattern. The levels are those of the open braces, the innermost first;
`behindSlash` says that a slash was read just before, which makes a `**` a component. -/
def readSymbols : (l : Level) → (outer : List Level) → (behindSlash : Bool) → List Symbol →
    Except Fault Regex
  | _, _, _, .fault f :: _ => .error f
  | l, [], _, [] => .ok (if l.pieces = [.leading] then many anyByte else inOrder l.pieces)
  | _, _ :: _, _, [] => .error .unclosedGroup
  | l, outer, behindSlash, .star :: .star :: .slash :: rest =>
    if l.pieces = [] then
      readSymbols (l.add .leading) outer true rest
    else if behindSlash then
      readSymbols (l.addComponents .inner) outer true rest
    else
      readSymbols (l.addStars.add (.plain slash)) outer true rest
  | l, outer, behindSlash, .star :: .star :: rest =>
    if l.pieces = [] && rest = [] then
      readSymbols (l.add .leading) outer false rest
    else if behindSlash && l.pieces ≠ [] && endsBranch (outer ≠ []) rest then
      readSymbols (l.addComponents .trailing) outer false rest
    else
      readSymbols l.addStars outer false rest
  | l, outer, _, .star :: rest => readSymbols (l.add (.plain (many inName))) outer false rest
  | l, outer, _, .question :: rest => readSymbols (l.add (.plain inName)) outer false rest
  | l, outer, _, .bracket negated ranges :: rest =>
    let set := (ranges.map rangeSet).foldr .union .nothing
    readSymbols (l.add (.plain (.one (if negated then .complement set else set)))) outer false rest
  | l, outer, _, .opening :: rest => readSymbols ⟨[], []⟩ (l :: outer) false rest
  | l, [], _, .comma :: rest => readSymbols (l.add (.plain (charRegex ','))) [] false rest
  | l, outer :: outers, _, .comma :: rest => readSymbols l.next (outer :: outers) false rest
  | _, [], _, .closing :: _ => .error .unopenedGroup
  | l, outer :: outers, _, .closing :: rest =>
    readSymbols (outer.add l.group) outers false rest
  | l, outer, _, .slash :: rest => readSymbols (l.add (.plain slash)) outer true rest
  | l, outer, _, .char c :: rest =>
    readSymbols (l.add (.plain (charRegex c))) outer (c == '/') rest

end Wildcard

/-- The regular expression of a pattern; it has to be searched for among bytes. It asks for the
start and the end of the text on its sides, so that it is found only where it holds of the whole
path. -/
def wildcardRegex (pattern : Text) : Except Wildcard.Fault Regex :=
  (Wildcard.readSymbols ⟨[], []⟩ [] false (Wildcard.symbols true 0 pattern)).map fun r =>
    .andThen (.look .textStart) (.andThen r (.look .textEnd))

end DotJs.Ignore
