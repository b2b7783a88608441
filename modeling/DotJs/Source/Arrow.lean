import DotJs.Source.Operand

/-!
# Arrow functions

An arrow function starts like an expression, and the arrow comes late. `arrowOutlook`
looks at the first few tokens: they say yes, no or perhaps. In the last case the
head of a function is tried, up to its arrow, and the source is read again as an
expression when that fails.
-/

namespace DotJs.Source

open DotJs.Source.Parser

/-- Whether an arrow function starts at some token. `perhaps` is an answer of its own because only
then something has to be read twice. -/
inductive Outlook where
  /-- it does -/
  | yes
  /-- it does not -/
  | no
  /-- only the rest can tell -/
  | perhaps
  deriving DecidableEq, Repr

/-- What a condition says that leaves nothing open. -/
def Outlook.ofBool (b : Bool) : Outlook := if b then .yes else .no

/-- The outlook behind an opening parenthesis. Behind `()` the next token tells; a pattern looks
like an array or an object, and only what follows it can tell. -/
def outlookInParentheses : Parser Outlook := do
  if ← isAt ")" then
    advance
    return .ofBool (← isAtAny ["=>", ":", openBrace])
  if ← isAtAny ["[", openBrace] then return .perhaps
  if ← isAt "..." then return .yes
  match (← token).word? with
  | none => return .no
  | some first =>
    advance
    if modifierWords.contains first && first != "async" && (← isAtBindingName) then
      return .ofBool (!(← isAtWord "as"))
    if !isBindingWord first && first != "this" then return .no
    if ← isAt ":" then return .yes
    if ← isAt "?" then
      advance
      return .ofBool (← isAtAny [":", ",", "=", ")"])
    if ← isAtAny [",", "=", ")"] then return .perhaps
    return .no

/-- The outlook behind an opening angle bracket. Where markup is possible, the bracket opens an
element unless a comma, a default or a bound follows the name. -/
def outlookInAngles : Parser Outlook := do
  if !((← isAtBindingName) || (← isAtWord "const")) then return .no
  if !(← hasMarkup) then return .perhaps
  let _ ← eatWord "const"
  advance
  if ← isAtWord "extends" then
    advance
    return .ofBool (!(← isAtAny ["=", ">", "/"]))
  return .ofBool (← isAtAny [",", "="])

/-- Whether an arrow function with parentheses starts here, as far as a few tokens tell. -/
def arrowOutlook : Parser Outlook :=
  peek .no do
    if ← isAtWord "async" then
      advance
      if ← isOnNewLine then return .no
    if ← isAt "(" then
      advance
      return ← outlookInParentheses
    if ← isAt "<" then
      advance
      return ← outlookInAngles
    return .no

/-- Takes the arrow `=>`, which stands on the line of what precedes it. -/
def expectArrow : Parser Unit := do
  complainIf ((← isAt "=>") && (← isOnNewLine))
  expect "=>"

/-- The body of an arrow function, behind the arrow: a block or an expression. -/
def arrowBody (g : Grammar) (isAsync returnType : Bool) : Parser Unit :=
  within (fun c => { c with isAwait := isAsync, isYield := false }) do
    if ← isAt openBrace then
      functionBody g
    else
      let _ ← g.parser (.assignment returnType)

/-- What is kept of the head of an arrow function for its body and for what may follow it. -/
structure ArrowHead where
  /-- whether it is asynchronous -/
  isAsync : Bool
  /-- whether it has a return type -/
  hasReturnType : Bool
  deriving DecidableEq, Repr

/-- The head of an arrow function: its parameters and return type, and the arrow. -/
def arrowHead (g : Grammar) : Parser ArrowHead := do
  let isAsync ← eatWord "async"
  let hasReturnType ← within (fun c => { c with isAwait := c.isAwait || isAsync }) do
    typeParameters g
    let list ← parameters g
    complainIf list.hasThis
    let hasReturnType := (← hasTypes) && (← isAt ":")
    returnAnnotation g
    return hasReturnType
  expectArrow
  return ⟨isAsync, hasReturnType⟩

/-- An arrow function with parentheses, if one starts here (`arrowOutlook`). On the first branch of
a conditional expression, a colon may end the branch instead of opening a return type: a function
with a return type is then accepted only if another colon follows it. -/
def parenthesizedArrow (g : Grammar) (returnType : Bool) : Parser Bool := do
  match ← arrowOutlook with
  | .no => return false
  | .yes =>
    let head ← arrowHead g
    arrowBody g head.isAsync true
    return true
  | .perhaps =>
    let s ← get
    match ← attempt (arrowHead g) with
    | none => return false
    | some head =>
      arrowBody g head.isAsync returnType
      if !returnType && head.hasReturnType && !(← isAt ":") then
        set s
        return false
      return true

/-- Whether an asynchronous arrow function with a single name starts here, as in `async x => x`. -/
def isAsyncNameArrow : Parser Bool := do
  if !(← isAtWord "async") then return false
  peek false do
    advance
    if (← isOnNewLine) || !(← isAtBindingName) then return false
    advance
    return (← isAt "=>") && !(← isOnNewLine)

/-- An asynchronous arrow function with a single name, as `async x => x`. -/
def asyncNameArrow (g : Grammar) (returnType : Bool) : Parser Unit := do
  expectWord "async"
  let _ ← bindingName
  expectArrow
  arrowBody g true returnType

end DotJs.Source
