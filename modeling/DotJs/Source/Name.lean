import DotJs.Source.Nonterminal

/-!
# Names, keys and modifiers

Names of variables, keys of properties, and the words that can stand before a
declaration or a member. Whether such a word is a modifier or a name shows only
on the token behind it.
-/

namespace DotJs.Source

open DotJs.Source.Parser

/-- Complains about `await` and `yield` as names where they are operators. -/
def checkName (name : String) (c : Context) : Parser Unit :=
  complainIf ((name == "await" && c.isAwait) || (name == "yield" && c.isYield))

/-- Whether the current token can be the name of a variable (`isBindingWord`). -/
def isAtBindingName : Parser Bool := do
  return ((← token).word?.map isBindingWord).getD false

/-- Whether the current token is a name, other than `await` and `yield` where they are operators. -/
def isAtReference : Parser Bool := do
  match (← token).word? with
  | none => return false
  | some name =>
    let c ← context
    return isBindingWord name && !(name == "await" && c.isAwait)
      && !(name == "yield" && c.isYield)

/-- The name of a variable, where it is bound or used. -/
def bindingName : Parser String := do
  match (← token).word? with
  | none => giveUp
  | some name =>
    need (isBindingWord name)
    checkName name (← context)
    advance
    return name

/-- Any word as a name: behind a dot and as a key, no word is reserved. -/
def anyName : Parser String := do
  match (← token).word? with
  | none => giveUp
  | some name =>
    advance
    return name

/-- Whether the current token is a word, a string or a number. -/
def isAtLiteralKey : Parser Bool := do
  match (← token).kind with
  | .word _ | .string .. | .number => return true
  | _ => return false

/-- What is kept of a key: the name that it is, where members with that name have rules of their own
(`Key.isNamed`). -/
inductive Key where
  /-- a word -/
  | word (name : String)
  /-- a string -/
  | string (value : Text)
  /-- a number, or an expression in brackets -/
  | other
  /-- a private name; only members of classes have such keys -/
  | hidden
  deriving DecidableEq, Repr

/-- An expression in brackets as a key. -/
def computedKey (g : Grammar) : Parser Unit := do
  expect "["
  let _ ← g.argument
  expect "]"

/-- The key of a property: a string, a number, an expression in brackets (`computedKey`) or any
word. -/
def propertyKey (g : Grammar) : Parser Key := do
  match (← token).kind with
  | .string value _ _ =>
    advance
    return .string value
  | .number =>
    advance
    return .other
  | .mark "[" =>
    computedKey g
    return .other
  | _ => return .word (← anyName)

/-! ## Modifiers -/

/-- Whether a modifier can stand before the current token: something has to follow that it can
change. -/
def canFollowModifier : Parser Bool := do
  match (← token).kind with
  | .word _ | .string .. | .number | .privateName _ => return true
  | .mark m => return ["[", openBrace, "*", "..."].contains m
  | _ => return false

/-- Whether the next token is on the same line, and what can follow a modifier. -/
def nextCanFollowOnSameLine : Parser Bool := do
  advance
  return !(← isOnNewLine) && (← canFollowModifier)

/-- Whether the tokens behind `default` make it a modifier. -/
def nextCanFollowDefault : Parser Bool := do
  advance
  if ← isAtAnyWord ["class", "function", "interface"] then return true
  if ← isAt "@" then return true
  if ← isAtWord "abstract" then
    advance
    return (← isAtWord "class") && !(← isOnNewLine)
  if ← isAtWord "async" then
    advance
    return (← isAtWord "function") && !(← isOnNewLine)
  return false

/-- Whether the current token can follow `export` as a modifier. -/
def canFollowExport : Parser Bool := do
  if ← isAt "@" then return true
  if ← isAtAny ["*", openBrace] then return false
  if ← isAtWord "as" then return false
  canFollowModifier

/-- Whether the current word is a modifier, judged by what follows. It looks ahead only (`peek`), as
the word may come out to be a name. -/
def isModifierHere : Parser Bool := do
  match (← token).word? with
  | none => return false
  | some name =>
    if !modifierWords.contains name then return false
    peek false do
      match name with
      | "const" =>
        advance
        isAtWord "enum"
      | "export" =>
        advance
        if ← isAtWord "default" then nextCanFollowDefault else canFollowExport
      | "default" => nextCanFollowDefault
      | "static" =>
        advance
        canFollowModifier
      | _ => nextCanFollowOnSameLine

/-- The modifiers that stand before a member or a parameter. With `constAllowed`, `const` can be one
of them; with `beforeBlock`, `static` before a brace is none. -/
def modifiers (constAllowed beforeBlock : Bool) : Parser (List String) := do
  let reversed ← foldWhile step []
  return reversed.reverse
where
  /-- One more modifier. -/
  step (seen : List String) : Parser (Option (List String)) := do
    let t ← token
    match t.word? with
    | none => return none
    | some name =>
      let isOne ←
        if name == "const" && constAllowed then peek false nextCanFollowOnSameLine
        else if name == "static" && seen.contains "static" then pure false
        else if name == "static" && beforeBlock && (← peek false (do advance; isAt openBrace)) then
          pure false
        else isModifierHere
      if isOne then
        complainIf (seen.contains name)
        complainIf (isAccess name && seen.any isAccess)
        take
        return some (name :: seen)
      else
        return none
  /-- Words that say who can use a member. -/
  isAccess (name : String) : Bool := ["public", "private", "protected"].contains name

/-- Complains (`complain`) about modifiers that have no meaning in their place. -/
def allowModifiers (allowed present : List String) : Parser Unit :=
  complainIf (present.any fun m => !allowed.contains m)

/-- Whether the current token is a given word that says what kind of member follows, such as `get`.
It is then taken. -/
def contextualModifier (name : String) : Parser Bool := do
  if (← isAtWord name) && (← peek false (do advance; canFollowModifier)) then
    take
    return true
  return false

/-! ## Strings -/

/-- A string literal, with its value, its place and its text: the only construct of which everything
is kept, because an edit is made of it. -/
def stringLiteral : Parser Literal := do
  let t ← token
  match t.kind with
  | .string value raw _ =>
    advance
    return ⟨value, ⟨t.start, t.stop⟩, some raw⟩
  | _ => giveUp

end DotJs.Source
