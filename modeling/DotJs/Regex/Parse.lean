import DotJs.Regex.Bracket

/-!
# Reading a pattern

Groups are kept on a stack while the pattern is read from left to right. A `Level` is
a group that is still open: the branches that are finished, and the pieces of the
current branch. A repetition takes the last piece of the branch.

A pattern is refused when a piece of it means nothing, when its groups are nested too
deeply, or when it would take too much room in compiled form.
-/

namespace DotJs.Regex

open Reader

/-- A piece of a branch: a pattern that is complete, and what has to be known of it to repeat it or
to weigh it. -/
structure Piece where
  /-- what it matches -/
  regex : Regex
  /-- how deep groups and repetitions are nested in it -/
  depth : Nat
  /-- whether it can be repeated; flags cannot -/
  isRepeatable : Bool
  deriving Repr

/-- A group that is still open. The flags of the group are in the `Reading`, those behind it here,
where they wait for its end. -/
structure Level where
  /-- the finished branches, the last one first -/
  branches : List Piece
  /-- the pieces of the current branch, the last one first -/
  pieces : List Piece
  /-- the flags behind the group -/
  flagsBehind : Flags
  deriving Repr

/-- The depth of parts that stand together. A single part adds no depth, so that brackets and groups
count and a long branch does not. -/
def depthTogether (parts : List Piece) : Nat :=
  parts.foldl (fun d p => max d p.depth) 0 + (if 2 ≤ parts.length then 1 else 0)

/-- One after the other, in the order of the list. -/
def inOrder (parts : List Piece) : Regex :=
  parts.foldr (fun p r => if r = .empty then p.regex else .andThen p.regex r) .empty

namespace Level

/-- A `Level` without anything in it, as it is behind an opening parenthesis. -/
def opened (flagsBehind : Flags) : Level := ⟨[], [], flagsBehind⟩

/-- The current branch as one `Piece`. -/
def branch (l : Level) : Piece :=
  ⟨inOrder l.pieces.reverse, depthTogether l.pieces, true⟩

/-- The level with one more `Piece` at the end of its current branch. -/
def add (l : Level) (p : Piece) : Level := { l with pieces := p :: l.pieces }

/-- The level with its current branch finished, behind a `|`. -/
def nextBranch (l : Level) : Level := { l with branches := l.branch :: l.branches, pieces := [] }

/-- The whole level as one `Piece`: a choice between all its branches. -/
def close (l : Level) : Piece :=
  let branches := l.branch :: l.branches
  let regex := match l.branches with
    | [] => l.branch.regex
    | first :: others =>
      others.foldl (fun r p => .either p.regex r) (.either first.regex l.branch.regex)
  ⟨regex, depthTogether branches, true⟩

end Level

/-! ## Primitives -/

/-- A character as a pattern. A byte that is no character is refused: a text has characters only. -/
def literalRegex (c : Char) (byte : Bool) : Reader Regex := do
  let flags ← flags
  ensure (flags.unicode || !byte || c.toNat < 128)
  if flags.ignoreCase && (flags.unicode || c.isAlpha) then
    return .one (.folded flags.unicode (.single c))
  return .one (.single c)

/-- Any character (`.`), but line ends unless the flags say so. -/
def dotRegex : Reader Regex := do
  let flags ← flags
  ensure flags.unicode
  let lineEnds : CharSet :=
    if flags.dotAll then .nothing
    else if flags.crlf then .union (.single '\r') (.single '\n')
    else .single '\n'
  return .one (.complement lineEnds)

/-- A single piece (`Primitive`) of a pattern that is neither group, class nor repetition. -/
def primitiveRegex : Reader Regex := do
  let c ← next
  let flags ← flags
  if c = '\\' then
    match ← escapeSequence with
    | .literal c byte => literalRegex c byte
    | .set s => return .one s
    | .look l => return .look l
  else
    drop 1
    match c with
    | '.' => dotRegex
    | '^' => return .look (if flags.multiLine then .lineStart flags.crlf else .textStart)
    | '$' => return .look (if flags.multiLine then .lineEnd flags.crlf else .textEnd)
    | c => literalRegex c false

/-! ## Repetitions -/

/-- A decimal number of at most 32 bits, as a `repetitionRange` has it. Blanks may stand around it,
whatever the flags say. -/
def decimal : Reader (Option Nat) := do
  modify fun r => { r with rest := r.rest.dropWhile Unicode.isWhiteSpace }
  let digits ← takeSpaced Char.isDigit
  modify fun r => { r with rest := r.rest.dropWhile Unicode.isWhiteSpace }
  skipSpace
  if digits.isEmpty then return none
  let n := digits.foldl (fun n c => n * 10 + (c.toNat - '0'.toNat)) 0
  ensure (n < 0x100000000)
  return some n

/-- The numbers of a repetition such as `{2,3}`, from its opening brace on. The second one is
missing if there is no most. -/
def repetitionRange : Reader (Nat × Option Nat) := do
  dropWithSpace
  let _ ← next
  match ← decimal with
  | none => refuse
  | some least =>
    let range ←
      if (← next) == ',' then do
        dropWithSpace
        if (← next) == '}' then
          pure (least, none)
        else
          match ← decimal with
          | none => refuse
          | some most => pure (least, some most)
      else
        pure (least, some least)
    ensure ((← next) == '}')
    dropWithSpace
    ensure ((range.2.map fun most => decide (least ≤ most)).getD true)
    return range

/-- Repeats the last `Piece` of a level. A question mark behind it changes which match is preferred,
but not whether there is one. -/
def repeated (l : Level) (least : Nat) (most : Option Nat) : Reader Level := do
  match l.pieces with
  | [] => refuse
  | p :: pieces =>
    ensure p.isRepeatable
    let _ ← takeText ['?']
    return { l with pieces := ⟨.loop p.regex least most, p.depth + 1, true⟩ :: pieces }

/-! ## Groups -/

/-- Changes a flag, by its letter. `U` changes only which matches are preferred, and so nothing
here. -/
def Flags.change (flags : Flags) (flag : Char) (on : Bool) : Flags :=
  match flag with
  | 'i' => { flags with ignoreCase := on }
  | 'm' => { flags with multiLine := on }
  | 's' => { flags with dotAll := on }
  | 'u' => { flags with unicode := on }
  | 'R' => { flags with crlf := on }
  | 'x' => { flags with spaced := on }
  | _ => flags

/-- Applies a list of flags; those behind a dash are switched off. -/
def Flags.changes (on : Bool) (flags : Flags) : Text → Flags
  | [] => flags
  | '-' :: rest => Flags.changes false flags rest
  | c :: rest => Flags.changes on (flags.change c on) rest

/-- The flags of a group such as `(?i-s:`, up to the colon or parenthesis behind them. Each of them,
the dash included, stands once, and the dash not at the end. -/
def flagList : Reader Text := do
  let text ← rest
  let list := text.takeWhile fun c => c != ':' && c != ')'
  ensure (list.length < text.length)
  ensure (list.all fun c => "imsuURx-".toList.contains c)
  ensure (decide list.Nodup && list.getLast? != some '-')
  drop list.length
  return list

/-- Whether a character can stand in the name of a group. A digit cannot open one. -/
def isGroupNamePart (first : Bool) (c : Char) : Bool :=
  c == '_' || isAlphabetic c || (!first && (c == '.' || c == '[' || c == ']' || isNumeric c))
where
  /-- Letters. -/
  isAlphabetic (c : Char) : Bool :=
    ((Unicode.property? "alphabetic").map fun runs => runs.contains c.toNat).getD false
  /-- Numbers. -/
  isNumeric (c : Char) : Bool :=
    ["Nd", "Nl", "No"].contains (Unicode.generalCategory c.toNat).code

/-- The name of a group, as in `(?<name>`, with the angle bracket behind it. No two groups have one
name. -/
def groupName : Reader Unit := do
  let text ← rest
  let name := text.takeWhile (· != '>')
  ensure (name.length < text.length && !name.isEmpty)
  ensure ((name.take 1).all (isGroupNamePart true) && (name.drop 1).all (isGroupNamePart false))
  let r ← get
  ensure (!r.names.contains name)
  set { r with rest := text.drop (name.length + 1), names := name :: r.names }

/-- Opens a group or changes flags. The levels are the open ones, the innermost first. What looks
around without taking anything is refused, as there is no such pattern. -/
def openGroup (l : Level) (outer : List Level) : Reader (Level × List Level) := do
  dropWithSpace
  let before ← flags
  let inner := (Level.opened before, l :: outer)
  let text ← rest
  if ["?=", "?!", "?<=", "?<!"].any fun p => p.toList.isPrefixOf text then refuse
  if (← takeText "?P<".toList) || (← takeText "?<".toList) then
    groupName
    return inner
  if ← takeText ['?'] then
    let list ← flagList
    modify fun r => { r with flags := Flags.changes true before list }
    if ← takeText [')'] then
      ensure (!list.isEmpty)
      return (l.add ⟨.empty, 0, false⟩, outer)
    drop 1
    return inner
  return inner

/-- Closes the innermost group, which becomes a piece of the one around it; the flags are again
those from before it. -/
def closeGroup (l : Level) (outer : List Level) : Reader (Level × List Level) := do
  drop 1
  match outer with
  | [] => refuse
  | parent :: outer =>
    modify fun r => { r with flags := l.flagsBehind }
    let p := l.close
    return (parent.add { p with depth := p.depth + 1 }, outer)

/-! ## Patterns -/

/-- Reads a pattern to its end. Each step takes a character, so that the number of characters bounds
the steps. The open groups are a list and not levels of a recursion, so that the end of a group is a
step like any other. -/
def readPieces : (steps : Nat) → Level → List Level → Reader Piece
  | 0, _, _ => refuse
  | steps + 1, l, outer => do
    skipSpace
    match ← peek? with
    | none =>
      ensure outer.isEmpty
      return l.close
    | some '(' =>
      let (l, outer) ← openGroup l outer
      readPieces steps l outer
    | some ')' =>
      let (l, outer) ← closeGroup l outer
      readPieces steps l outer
    | some '|' =>
      drop 1
      readPieces steps l.nextBranch outer
    | some '[' =>
      let c ← bracketClass
      readPieces steps (l.add ⟨.one c.set, c.depth, true⟩) outer
    | some '?' =>
      drop 1
      readPieces steps (← repeated l 0 (some 1)) outer
    | some '*' =>
      drop 1
      readPieces steps (← repeated l 0 none) outer
    | some '+' =>
      drop 1
      readPieces steps (← repeated l 1 none) outer
    | some '{' =>
      ensure (!l.pieces.isEmpty)
      let (least, most) ← repetitionRange
      readPieces steps (← repeated l least most) outer
    | some _ =>
      let r ← primitiveRegex
      readPieces steps (l.add ⟨r, 0, true⟩) outer

/-- How deep groups may be nested. -/
def depthLimit : Nat := 250

/-- The regular expression that a pattern writes, if it writes one that is neither too deep
(`depthLimit`) nor too large (`weightLimit`). -/
def parse? (pattern : Text) : Option Regex :=
  let level := Level.opened Flags.initial
  match readPieces (pattern.length + 1) level [] ⟨pattern, Flags.initial, []⟩ with
  | some (p, _) =>
    if p.depth ≤ depthLimit ∧ p.regex.weight ≤ weightLimit then some p.regex else none
  | none => none

end DotJs.Regex
