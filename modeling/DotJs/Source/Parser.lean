import DotJs.Language
import DotJs.Program
import DotJs.Source.Scanner

/-!
# Parsers

A parser goes through the tokens of a source text. It decides whether the text
is a program, and collects the module nodes on its way; a tree of everything else
is not built.

* `Cursor` is where a parser stands: the current token, the place behind it, the
  grammatical context, and the module nodes found so far.
* `Parser α` either goes on with a result or gives up. Giving up is final unless
  an alternative was kept open by `attempt`.
* `complain` marks the source as wrong and goes on. That makes a difference in
  an attempt, which is not given up for a complaint.

Nothing here recurses on the grammar: a parser that needs a construct from further
up asks the `Grammar` for it.
-/

namespace DotJs.Source

/-- What the grammar knows about the surroundings of a construct. Such a flag holds for all that
stands inside, and `Parser.within` puts it back behind the construct. -/
structure Context where
  /-- whether `in` is an operator -/
  isIn : Bool
  /-- whether `yield` is an operator -/
  isYield : Bool
  /-- whether `await` is an operator -/
  isAwait : Bool
  /-- whether `return` may stand -/
  isReturn : Bool
  /-- whether a decorator is read, in which `[` opens no index -/
  isDecorator : Bool
  /-- whether everything is a declaration without a body -/
  isAmbient : Bool
  /-- whether `extends` behind a type opens a conditional type -/
  isExtends : Bool
  deriving DecidableEq, Repr

/-- Where a parser stands. The text is here only as the `place` behind the current token, and of
what was read nothing is kept but the module nodes and what later tokens can be complained about
for. -/
structure Cursor where
  /-- the language of the source -/
  language : Language
  /-- a bound on the number of tokens, by which every repetition ends -/
  bound : Nat
  /-- the current token -/
  token : Token
  /-- the place behind the current token -/
  place : Place
  /-- the byte offset behind the previous token -/
  previousStop : Nat
  /-- the grammatical context -/
  context : Context
  /-- the module nodes found, the last one first -/
  found : List Node
  /-- the offsets of shorthand properties with a default, which have a meaning only
  in targets of assignments -/
  defaults : List Nat
  /-- the names exported so far -/
  exported : List Text
  /-- whether something is wrong with the source -/
  flawed : Bool

/-- A parser with a result. It goes on from a `Cursor` to another one or gives up; no message says
why, since a file that is no program is only reported as such. -/
abbrev Parser (α : Type) := StateT Cursor Option α

namespace Parser

/-- Gives up: the source is no program, unless `attempt` or `peek` goes back. -/
def giveUp {α : Type} : Parser α := fun _ => none

/-- Marks the source as wrong and goes on. It is no program then, but an `attempt` that complains is
not given up for it. -/
def complain : Parser Unit := modify fun s => { s with flawed := true }

/-- Marks the source as wrong under a condition, as `complain` does without one. -/
def complainIf (b : Bool) : Parser Unit := if b then complain else pure ()

/-- Gives up (`giveUp`) unless a condition holds. -/
def need (b : Bool) : Parser Unit := if b then pure () else giveUp

/-- Runs a parser and forgets everything but its answer; giving up answers as told. It is for
looking ahead by any number of tokens. -/
def peek {α : Type} (otherwise : α) (p : Parser α) : Parser α := fun s =>
  match p s with
  | some (a, _) => some (a, s)
  | none => some (otherwise, s)

/-- Runs a parser, and goes back when it gives up, with `none` for an answer. -/
def attempt {α : Type} (p : Parser α) : Parser (Option α) := fun s =>
  match p s with
  | some (a, s') => some (some a, s')
  | none => some (none, s)

/-- Repeats a step until it asks to stop. Since each step but the last is to take a token, the bound
is never the reason to end; it is there so that the recursion is on a number. -/
def repeatSteps (step : Parser Bool) : Nat → Parser Unit
  | 0 => giveUp
  | n + 1 => do
    if ← step then repeatSteps step n else pure ()

/-- Repeats a step as long as it answers yes, with the `bound` of the cursor. -/
def repeatWhile (step : Parser Bool) : Parser Unit := do
  repeatSteps step (← get).bound

/-- Repeats a step on a growing result until it leaves the result as it is, as `repeatSteps` does
without one. -/
def foldSteps {α : Type} (step : α → Parser (Option α)) : Nat → α → Parser α
  | 0, _ => giveUp
  | n + 1, a => do
    match ← step a with
    | some a' => foldSteps step n a'
    | none => pure a

/-- Repeats a step on a growing result, with the `bound` of the cursor. -/
def foldWhile {α : Type} (step : α → Parser (Option α)) (a : α) : Parser α := do
  foldSteps step (← get).bound a

/-! ## The current token -/

/-- The current token, which is not taken; `take` and its like do that. -/
def token : Parser Token := do return (← get).token

/-- Whether the language has types (`Language.types`). -/
def hasTypes : Parser Bool := do return (← get).language.types

/-- Whether the language has markup (`Language.markup`). -/
def hasMarkup : Parser Bool := do return (← get).language.markup

/-- The grammatical context at the current token. -/
def context : Parser Context := do return (← get).context

/-- Whether the current token is a given punctuator (`Token.isMark`). -/
def isAt (mark : String) : Parser Bool := do return (← token).isMark mark

/-- Whether the current token is a given word. -/
def isAtWord (name : String) : Parser Bool := do return (← token).isWord name

/-- Whether the current token is one of some punctuators. -/
def isAtAny (marks : List String) : Parser Bool := do
  match (← token).kind with
  | .mark m => return marks.contains m
  | _ => return false

/-- Whether the current token is one of some words. -/
def isAtAnyWord (names : List String) : Parser Bool := do
  match (← token).kind with
  | .word name => return names.contains name
  | _ => return false

/-- Whether the source is at its end. -/
def isAtEnd : Parser Bool := do return (← token).kind == .endOfSource

/-- Whether a line break stands before the current token. -/
def isOnNewLine : Parser Bool := do return (← token).onNewLine

/-- Takes the current token, whatever it is, and scans the next one by the plain rules
(`Place.token`). -/
def advance : Parser Unit := modify fun s =>
  let (token, place) := s.place.token (!s.language.isModule) false
  { s with token, place, previousStop := s.token.stop }

/-- Takes the current token as a keyword or punctuator. A keyword has to be written without
escapes. -/
def take : Parser Unit := do
  let t ← token
  complainIf (t.escaped && (t.word?.map keywords.contains).getD false)
  advance

/-- Takes a punctuator if it is there (`isAt`), and tells whether it was. -/
def eat (mark : String) : Parser Bool := do
  if ← isAt mark then
    take
    return true
  return false

/-- Takes a keyword if it is there (`isAtWord`), and tells whether it was. -/
def eatWord (name : String) : Parser Bool := do
  if ← isAtWord name then
    take
    return true
  return false

/-- Takes a punctuator that has to be there; without it the parser gives up, where `eat` would go
on. -/
def expect (mark : String) : Parser Unit := do
  need (← isAt mark)
  take

/-- Takes a keyword that has to be there; without it the parser gives up, where `eatWord` would go
on. -/
def expectWord (name : String) : Parser Unit := do
  need (← isAtWord name)
  take

/-- Replaces the current token by a wider or another one that starts at the same place: where the
grammar expects something that the plain scan does not see. -/
def rescan (kind : Kind) (place : Place) : Parser Unit := modify fun s =>
  { s with token := { s.token with kind, stop := place.offset }, place }

/-- Runs a parser in a changed `Context`, and goes back to the old one behind it. -/
def within {α : Type} (change : Context → Context) (p : Parser α) : Parser α := do
  let before ← context
  modify fun s => { s with context := change s.context }
  let a ← p
  modify fun s => { s with context := before }
  return a

/-- Whether a semicolon can be left out here: before a closing brace, at the end and on a new
line. -/
def canEndStatement : Parser Bool := do
  let t ← token
  return t.isMark ";" || t.isMark closeBrace || t.kind == .endOfSource || t.onNewLine

/-- Takes the semicolon at the end of a statement, if it was written; it has to be where it cannot
be left out (`canEndStatement`). -/
def semicolon : Parser Unit := do
  if ← eat ";" then return
  need (← canEndStatement)

/-! ## Module nodes -/

/-- Adds a module node to those that were found. -/
def record (n : Node) : Parser Unit := modify fun s => { s with found := n :: s.found }

/-- Runs a parser and keeps the module nodes that it finds apart, in the order of the source: they
become those `inside` a node that is not complete yet. -/
def collect {α : Type} (p : Parser α) : Parser (α × List Node) := do
  let outer := (← get).found
  modify fun s => { s with found := [] }
  let a ← p
  let inner := (← get).found.reverse
  modify fun s => { s with found := outer }
  return (a, inner)

/-! ## Lists -/

/-- Reads elements separated by commas up to a punctuator `close`, which is not taken. The answer
tells whether a comma stands behind the last element. -/
def commaList (close : String) (element : Parser Unit) : Parser Bool := do
  if ← isAt close then
    return false
  element
  foldWhile (step close element) false
where
  /-- One more comma, and the element behind it unless the list ends there. -/
  step (close : String) (element : Parser Unit) (trailing : Bool) : Parser (Option Bool) := do
    if trailing || (← isAt close) then return none
    expect ","
    if ← isAt close then return some true
    element
    return some false

/-- Reads elements separated by commas up to a closing punctuator, and keeps their results, as
`commaList` does not. The flag tells whether a comma stands behind the last element. -/
def commaListOf {α : Type} (close : String) (element : Parser α) : Parser (List α × Bool) := do
  if ← isAt close then
    return ([], false)
  let first ← element
  let (reversed, trailing) ← foldWhile (step close element) ([first], false)
  return (reversed.reverse, trailing)
where
  /-- One more comma, and the element behind it unless the list ends there. -/
  step {α : Type} (close : String) (element : Parser α) :
      List α × Bool → Parser (Option (List α × Bool)) := fun (elements, trailing) => do
    if trailing || (← isAt close) then return none
    expect ","
    if ← isAt close then return some (elements, true)
    return some ((← element) :: elements, false)

end Parser

end DotJs.Source
