import DotJs.Source.Operator

/-!
# Declarations

Declarations of variables, and those that only a language with types has: aliases
of types, interfaces, enumerations and namespaces. A declaration can have modifiers
before it; `declare` makes everything in it a mere announcement.

Declarations answer with the names that they bind, since an exported declaration
exports them.
-/

namespace DotJs.Source

open DotJs.Source.Parser

/-! ## Variables -/

/-- What is kept of the variables of one declaration. `lacksValue` is only a complaint where the
head of a loop does not give the values. -/
structure Variables where
  /-- the names that are bound -/
  names : List String
  /-- whether one lacks a value that it has to have outside of loop heads -/
  lacksValue : Bool
  deriving DecidableEq, Repr

/-- A variable with its type and value. A `const` or a pattern has to have a value. -/
def variableDeclarator (g : Grammar) (isConstant : Bool) : Parser Variables := do
  let bound ← g.binding
  if ← hasTypes then
    if bound.isName && (← isAt "!") && !(← isOnNewLine) then advance
    let _ ← eat "?"
  annotation g
  let hasValue ← eat "="
  if hasValue then
    let _ ← g.assignment
  return ⟨bound.names, !hasValue && (isConstant || !bound.isName)⟩

/-- Variables separated by commas. -/
def variableList (g : Grammar) (isConstant : Bool) : Parser Variables := do
  let first ← variableDeclarator g isConstant
  foldWhile step first
where
  /-- One more variable. -/
  step (before : Variables) : Parser (Option Variables) := do
    if ← eat "," then
      let next ← variableDeclarator g isConstant
      return some ⟨before.names ++ next.names, before.lacksValue || next.lacksValue⟩
    return none

/-- Variables as a statement, from `var`, `let` or `const` on. The answer lists their names. -/
def variableStatement (g : Grammar) : Parser (List String) := do
  let isConstant ← isAtWord "const"
  take
  let list ← variableList g isConstant
  semicolon
  complainIf (list.lacksValue && !(← context).isAmbient)
  return list.names

/-- Whether a resource is declared here. In the head of a loop, `of` behind `using` belongs to the
loop. -/
def isAtUsing (inLoop : Bool) : Parser Bool := do
  if ← isAtWord "using" then return ← peek false nextIsName
  if ← isAtWord "await" then
    return ← peek false do
      advance
      if !(← isAtWord "using") || (← isOnNewLine) then return false
      nextIsName
  return false
where
  /-- Whether a name follows on the same line. -/
  nextIsName : Parser Bool := do
    advance
    return (← isAtBindingName) && !(← isOnNewLine) && !(inLoop && (← isAtWord "of"))

/-- Resources, from `using` or `await` on. A resource is bound to a name. -/
def usingList (g : Grammar) : Parser Variables := do
  if ← isAtWord "await" then
    complainIf (!(← context).isAwait)
    take
  expectWord "using"
  complainIf (← isAtWord "await")
  variableList g true

/-! ## Types with names -/

/-- An alias of a type: `type A = B`. -/
def typeAlias (g : Grammar) : Parser Unit := do
  expectWord "type"
  let _ ← bindingName
  typeParameters g
  expect "="
  g.type
  semicolon

/-- An `interface`, with the types that it extends and its members. -/
def interfaceDeclaration (g : Grammar) : Parser Unit := do
  expectWord "interface"
  let _ ← bindingName
  typeParameters g
  if ← eatWord "extends" then
    superclass g
    repeatWhile do
      if ← eat "," then
        superclass g
        return true
      return false
  typeMembers g

/-- The name of a member of an enumeration. Brackets can hold only a text. -/
def enumMemberName (g : Grammar) : Parser Unit := do
  match (← token).kind with
  | .string .. => advance
  | .number =>
    complain
    advance
  | .mark "[" =>
    expect "["
    let isText ← peek false do
      match (← token).kind with
      | .string .. | .template true _ =>
        advance
        isAt "]"
      | _ => return false
    complainIf (!isText)
    let _ ← g.argument
    expect "]"
  | _ =>
    let _ ← anyName

/-- An enumeration (`enum`), whose members can have values. -/
def enumDeclaration (g : Grammar) : Parser Unit := do
  expectWord "enum"
  let _ ← bindingName
  expect openBrace
  let _ ← commaList closeBrace do
    enumMemberName g
    if ← eat "=" then
      let _ ← g.argument
  expect closeBrace

/-! ## Namespaces -/

/-- A `namespace`, or a `module` with a name in quotes, which need not have a body. The name in
quotes is no specifier, and is not recorded. -/
def namespaceDeclaration (g : Grammar) : Parser Unit := do
  if (← isAtWord "module") && (← peek false (do advance; return (← token).isString)) then
    take
    let _ ← stringLiteral
    if ← isAt openBrace then block g else semicolon
  else
    take
    let _ ← bindingName
    repeatWhile do
      if ← eat "." then
        let _ ← bindingName
        return true
      return false
    block g

/-- What an imported name stands for: a module, as in `import a = require('b')`, or a name with
dots. Neither is a module node. -/
def importAlias : Parser Unit := do
  need (← hasTypes)
  expect "="
  if (← isAtWord "require") && (← peek false (do advance; isAt "(")) then
    take
    expect "("
    let _ ← stringLiteral
    expect ")"
  else
    dottedName
  semicolon

/-! ## Any declaration -/

/-- The modifiers before a declaration, such as `declare` and `abstract`. -/
def declarationModifiers : Parser (List String) := do
  let reversed ← foldWhile step []
  return reversed.reverse
where
  /-- One more modifier. -/
  step (seen : List String) : Parser (Option (List String)) := do
    if ← isModifierHere then
      let name := ((← token).word?).getD ""
      complainIf (seen.contains name)
      take
      return some (name :: seen)
    return none

/-- Whether a declaration starts here that only a language with types has, possibly behind
modifiers. Its first word can also be a name, so that the tokens behind it decide. -/
def isDeclarationStart : Parser Bool :=
  peek false do
    let answer ← foldWhile step none
    return answer.getD false
where
  /-- Whether a name follows on the same line, or also a string. -/
  nameFollows (orString : Bool) : Parser Bool := do
    advance
    return ((← isAtBindingName) || (orString && (← token).isString)) && !(← isOnNewLine)
  /-- Looks at one more word. -/
  step (answer : Option Bool) : Parser (Option (Option Bool)) := do
    if answer.isSome then return none
    match (← token).word? with
    | none => return some (some false)
    | some name =>
      if ["var", "let", "const", "function", "class", "enum"].contains name then
        return some (some true)
      if ["interface", "type"].contains name then return some (some (← nameFollows false))
      if ["module", "namespace"].contains name then return some (some (← nameFollows true))
      if name == "global" then
        advance
        return some (some ((← isAt openBrace) || (← isAtWord "export") || (← isAtBindingName)))
      if name == "static" then
        advance
        return some none
      if name == "import" then
        advance
        return some (some ((← token).isString || (← isAtAny ["*", openBrace])
          || (← token).word?.isSome))
      if name == "export" then
        advance
        if (← isAtAny ["=", "*", openBrace, "@"]) || (← isAtAnyWord ["default", "as"]) then
          return some (some true)
        return some none
      if ["abstract", "accessor", "async", "declare", "private", "protected", "public",
          "readonly"].contains name then
        advance
        if ← isOnNewLine then return some (some false)
        if name == "declare" && (← isAtWord "type") then return some (some true)
        return some none
      return some (some false)

/-- A declaration behind its modifiers. The answer lists the names that it binds. -/
def declarationRest (g : Grammar) (present : List String) : Parser (List String) := do
  if ← isAtAnyWord ["var", "let", "const"] then
    allowModifiers ["declare"] present
    return ← variableStatement g
  if ← isAtWord "class" then
    allowModifiers ["declare", "abstract"] present
    return [← classRest g false]
  if ← isAtFunction then
    allowModifiers ["declare", "async"] present
    let isAsync := present.contains "async" || (← eatWord "async")
    return [(← functionDeclaration g isAsync false).name]
  need (← hasTypes)
  allowModifiers ["declare", "const"] present
  if ← isAtWord "enum" then
    enumDeclaration g
    return []
  allowModifiers ["declare"] present
  match (← token).word? with
  | some "type" => typeAlias g
  | some "interface" => interfaceDeclaration g
  | some "namespace" | some "module" => namespaceDeclaration g
  | some "global" =>
    take
    block g
  | some "import" =>
    take
    let _ ← bindingName
    importAlias
  | _ => giveUp
  return []

/-- A declaration with its modifiers. Behind `declare`, everything in it is ambient. -/
def declaration (g : Grammar) : Parser (List String) := do
  let present ← if ← hasTypes then declarationModifiers else pure []
  within (fun c => { c with isAmbient := c.isAmbient || present.contains "declare" })
    (declarationRest g present)

end DotJs.Source
