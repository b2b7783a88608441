import DotJs.Source.Annotation

/-!
# Markup

Elements and fragments of markup in the middle of a program. Between tags, texts
follow rules of their own, so that the token behind a closing bracket or brace is
scanned differently there: `expectInside` takes such a bracket. An element that
stands in an expression ends with a plain token behind it.
-/

namespace DotJs.Source

open DotJs.Source.Parser

/-- Takes the current token; what follows stands between tags (`Place.markupText`). -/
def advanceInside : Parser Unit := modify fun s =>
  let (kind, place) := s.place.markupText
  { s with
    token := ⟨kind, s.place.offset, place.offset, false, false⟩
    place
    previousStop := s.token.stop }

/-- Takes a bracket that has to be there; what follows stands between tags (`advanceInside`). -/
def expectInside (mark : String) : Parser Unit := do
  need (← isAt mark)
  advanceInside

/-- Takes a bracket that has to be there, with what follows inside or outside of tags. -/
def expectClose (mark : String) (inside : Bool) : Parser Unit :=
  if inside then expectInside mark else expect mark

/-- A name in a tag, which can hold dashes: the word that was scanned is made longer
(`Place.markupWord`). -/
def markupName : Parser String := do
  match (← token).kind with
  | .word name =>
    let s ← get
    let stop := s.place.markupWord
    let tail := s.place.rest.take (s.place.rest.length - stop.rest.length)
    rescan (.word (name ++ String.ofList tail)) stop
    advance
    return name ++ String.ofList tail
  | _ => giveUp

/-- The name of an element: words with dots or a colon between them, as `a.b` and `a:b`. It is kept
to be compared with that of the closing tag. -/
def elementName : Parser (List String) := do
  let first ← markupName
  if ← eat ":" then
    return [first, ":", ← markupName]
  let reversed ← foldWhile step [first]
  complainIf (reversed.length != 1 && reversed.any fun part => part.contains '-')
  return reversed.reverse
where
  /-- One more dot and word. -/
  step (parts : List String) : Parser (Option (List String)) := do
    if ← eat "." then return some ((← markupName) :: parts)
    return none

/-- An expression in braces. -/
def container (g : Grammar) (inside : Bool) : Parser Unit := do
  expect openBrace
  if !(← isAt closeBrace) then
    if inside then
      let _ ← eat "..."
    let _ ← g.argument
  expectClose closeBrace inside

/-- Takes the equals sign before the value of an attribute. A quoted value has no escapes there, so
that a quote behind it is scanned again. -/
def expectValue : Parser Unit := do
  let s ← get
  expect "="
  match skipTrivia (!s.language.isModule) .between false s.place.offset s.place.rest with
  | some (⟨q :: rest, o⟩, _) =>
    if q = '\'' ∨ q = '"' then
      match skipMarkupString q (o + 1) rest with
      | some stop => rescan (.string [] [] true) stop
      | none => giveUp
  | _ => pure ()

/-- An attribute of an element, with or without a value, or a spread in braces (`{...x}`). -/
def elementAttribute (g : Grammar) : Parser Unit := do
  if ← isAt openBrace then
    expect openBrace
    expect "..."
    let _ ← g.argument
    expect closeBrace
  else
    let _ ← markupName
    if ← eat ":" then
      let _ ← markupName
    if ← isAt "=" then
      expectValue
      match (← token).kind with
      | .string .. => advance
      | .mark "\x7b" =>
        complainIf (← peek false (do advance; isAt closeBrace))
        container g false
      | .mark "<" => g.parser (.markup false)
      | _ => giveUp

/-- What stands between two tags: texts, expressions in braces and elements. -/
def children (g : Grammar) : Parser Unit :=
  repeatWhile do
    match (← token).kind with
    | .markupText =>
      advanceInside
      return true
    | .mark "\x7b" =>
      container g true
      return true
    | .mark "<" =>
      if ← peek false (do advance; isAt "/") then return false
      g.parser (.markup true)
      return true
    | _ => giveUp

/-- A fragment behind its first bracket: `<>` to `</>`. -/
def fragment (g : Grammar) (inside : Bool) : Parser Unit := do
  expectInside ">"
  children g
  expect "<"
  expect "/"
  expectClose ">" inside

/-- An element behind its first `<`. Its closing tag has to have its name. -/
def element (g : Grammar) (inside : Bool) : Parser Unit := do
  let name ← elementName
  if ← hasTypes then typeArgumentsOfName g
  repeatWhile do
    if (← isAtEnd) || (← isAtAny ["<", ">", "/"]) then return false
    elementAttribute g
    return true
  if ← eat "/" then
    expectClose ">" inside
  else
    expectInside ">"
    children g
    expect "<"
    expect "/"
    complainIf ((← elementName) != name)
    expectClose ">" inside

/-- An element or a fragment, from its first bracket on. -/
def markupProduction (g : Grammar) (inside : Bool) : Parser Unit := do
  expect "<"
  if ← isAt ">" then fragment g inside else element g inside

end DotJs.Source
