import DotJs.Source.Binding

/-!
# Functions

Parameters, return type and body of functions and methods. With types, a body can
be missing: the function is then only declared.
-/

namespace DotJs.Source

open DotJs.Source.Parser

/-- Statements up to a closing brace, which is not taken. -/
def statementList (g : Grammar) : Parser Unit :=
  repeatWhile do
    if (← isAt closeBrace) || (← isAtEnd) then return false
    g.statement .list
    return true

/-- Statements in braces, as a `statementList`. -/
def block (g : Grammar) : Parser Unit := do
  expect openBrace
  statementList g
  expect closeBrace

/-- The body of a function, in which `return` may stand. -/
def functionBody (g : Grammar) : Parser Unit :=
  within (fun c => { c with isReturn := true, isIn := true }) (block g)

/-- The surroundings inside a function. Whether `await` and `yield` are operators is decided anew by
the function itself. -/
def functionContext (isAsync isGenerator : Bool) (c : Context) : Context :=
  { c with isIn := true, isAwait := isAsync, isYield := isGenerator, isDecorator := false,
           isExtends := true }

/-- A function from its type parameters on: its parameters, and whether it has a body. A declaration
must not have one. -/
def functionRest (g : Grammar) (isAsync isGenerator : Bool) : Parser (Parameters × Bool) :=
  within (functionContext isAsync isGenerator) do
    typeParameters g
    let list ← parameters g
    returnAnnotation g
    if ← isAt openBrace then
      complainIf (← context).isAmbient
      functionBody g
      return (list, true)
    return (list, false)

/-- The name of a function that has to have one. -/
def functionName : Parser String := do
  if ← isAt "(" then
    complain
    return ""
  bindingName

/-- What is kept of the declaration of a function: its name, for exports, and whether it may stand
as a part of another statement. -/
structure DeclaredFunction where
  /-- the name, empty when there is none -/
  name : String
  /-- whether it is asynchronous or a generator -/
  isSpecial : Bool
  deriving DecidableEq, Repr

/-- A function from `function` on, as a declaration. It can lack a body only where the language has
types. -/
def functionDeclaration (g : Grammar) (isAsync nameOptional : Bool) : Parser DeclaredFunction := do
  expectWord "function"
  let isGenerator ← eat "*"
  let name ← if !nameOptional || (← isAtBindingName) then functionName else pure ""
  let (_, hasBody) ← functionRest g isAsync isGenerator
  if !hasBody then
    need (← hasTypes)
    semicolon
  return ⟨name, isAsync || isGenerator⟩

/-- A function from `async` or `function` on, as an expression, which has a body. -/
def functionExpression (g : Grammar) : Parser Unit := do
  let isAsync ← eatWord "async"
  expectWord "function"
  let isGenerator ← eat "*"
  if ← isAtBindingName then
    let name := ((← token).word?).getD ""
    checkName name { (← context) with isAwait := isAsync, isYield := isGenerator }
    advance
  let (_, hasBody) ← functionRest g isAsync isGenerator
  need hasBody

/-- What a method is called for, which decides how many parameters it has. -/
inductive MethodKind where
  /-- a call -/
  | plain
  /-- reading a property -/
  | getter
  /-- writing a property -/
  | setter
  deriving DecidableEq, Repr

/-- Complains about parameters that do not fit the kind of method: a `getter` has none, and a
`setter` one. -/
def MethodKind.checkParameters (kind : MethodKind) (p : Parameters) : Parser Unit :=
  match kind with
  | .plain => pure ()
  | .getter => complainIf (p.list.count != 0 || p.list.rest.isSome)
  | .setter => complainIf (p.list.count != 1 || p.list.rest.isSome)

/-- A method of an object or a class, from its type parameters on. With `bodyOptional`, it can be
declared only. -/
def methodRest (g : Grammar) (kind : MethodKind) (isAsync isGenerator bodyOptional : Bool) :
    Parser Unit := do
  let (list, hasBody) ← functionRest g isAsync isGenerator
  kind.checkParameters list
  if !hasBody then
    need bodyOptional
    semicolon

/-- Whether a function starts here, possibly an asynchronous one: `async` with `function` behind it
on the same line. -/
def isAtFunction : Parser Bool := do
  if ← isAtWord "function" then return true
  if !(← isAtWord "async") then return false
  peek false do
    advance
    return (← isAtWord "function") && !(← isOnNewLine)

end DotJs.Source
