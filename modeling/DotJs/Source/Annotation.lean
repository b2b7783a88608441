import DotJs.Source.Name

/-!
# Types

The grammar of types, as they stand behind a colon, in angle brackets or on the
right of a type alias. Nothing is kept of a type, not even of one that names a
module: such a name is resolved by other rules than those of imports.

A type in parentheses and the parameters of a function type look alike for any
number of tokens, so does a property name in brackets and an index signature.
`isFunctionType`, `isMappedType` and `isIndexSignature` look ahead to tell.
-/

namespace DotJs.Source

open DotJs.Source.Parser

/-! ## Angle brackets -/

/-- Makes a lone bracket of an operator that opens with `<`: in a type, `<<` opens two lists. -/
def narrowLess : Parser Unit := modify fun s =>
  match s.token.kind with
  | .mark m =>
    if ["<<", "<=", "<<="].contains m then
      let rest := (m.toList.drop 1) ++ s.place.rest
      let place : Place := ⟨rest, s.token.start + 1⟩
      { s with token := { s.token with kind := .mark "<", stop := place.offset }, place }
    else
      s
  | _ => s

/-- Whether a `<` stands here, alone or as the start of an operator. It is alone afterwards. -/
def isAtOpenAngle : Parser Bool := do
  narrowLess
  isAt "<"

/-- The operator that a greater-than sign opens together with what follows it. It is not taken
(`takeWide`). -/
def wideMark : Parser String := do
  let s ← get
  if s.token.isMark ">" then
    return (markOf wideMarks ('>' :: s.place.rest)).getD ">"
  else
    match s.token.kind with
    | .mark m => return m
    | .word w => return w
    | _ => return ""

/-! ## Type parameters and arguments -/

/-- A type parameter such as `T extends U = V`, with its bound and default. -/
def typeParameter (g : Grammar) : Parser Unit := do
  allowModifiers ["in", "out", "const"] (← modifiers true false)
  let _ ← bindingName
  if ← eatWord "extends" then g.type
  if ← eat "=" then g.type

/-- Type parameters in angle brackets, each a `typeParameter`, where the language has them. -/
def typeParameters (g : Grammar) : Parser Unit := do
  if (← hasTypes) && (← isAt "<") then
    expect "<"
    complainIf (← isAt ">")
    let _ ← commaList ">" (typeParameter g)
    expect ">"

/-- Type arguments such as `<A, B>`, of which there has to be one. -/
def typeArgumentList (g : Grammar) : Parser Unit := do
  expect "<"
  complainIf (← isAt ">")
  let _ ← commaList ">" g.type
  expect ">"

/-- Type arguments behind the name of a type, on the same line. -/
def typeArgumentsOfName (g : Grammar) : Parser Unit := do
  if !(← isOnNewLine) then
    if ← isAtOpenAngle then typeArgumentList g

/-- A type behind a colon (`: T`), if one stands here. -/
def annotation (g : Grammar) : Parser Unit := do
  if (← hasTypes) && (← isAt ":") then
    expect ":"
    g.type

/-! ## Names of types -/

/-- A name with further names behind dots, as `a.b.c`. -/
def dottedName : Parser Unit := do
  let _ ← anyName
  repeatWhile do
    if ← eat "." then
      let _ ← anyName
      return true
    return false

/-- The name of a type (`dottedName`), with its arguments. -/
def typeReference (g : Grammar) : Parser Unit := do
  dottedName
  typeArgumentsOfName g

/-! ## Predicates -/

/-- The type that a function returns: a type, or what it says of a parameter, as in `x is T`. -/
def typeOrPredicate (g : Grammar) : Parser Unit := do
  if ← isAtReference then
    let _ ← attempt do
      advance
      need ((← isAtWord "is") && !(← isOnNewLine))
      advance
  g.type

/-- The return type behind `:` or `=>`. -/
def returnType (g : Grammar) (mark : String) : Parser Unit := do
  expect mark
  typeOrPredicate g

/-- The return type behind a colon, if one stands here. -/
def returnAnnotation (g : Grammar) : Parser Unit := do
  if (← hasTypes) && (← isAt ":") then returnType g ":"

/-! ## Parameters -/

/-- A decorator, from its `@` on. In it, a bracket opens no index. -/
def decorator (g : Grammar) : Parser Unit := do
  expect "@"
  let _ ← within (fun c => { c with isDecorator := true }) (g.parser .leftHandSide)

/-- Any number of decorators, each an expression behind `@`. -/
def decorators (g : Grammar) : Parser Unit :=
  repeatWhile do
    if ← isAt "@" then
      decorator g
      return true
    return false

/-- A parameter with its type and default. With types, it can be declared as a property by a
modifier. The answer lists the names that it binds. -/
def parameter (g : Grammar) : Parser (List String) := do
  decorators g
  let present ← modifiers false false
  let allowed := ["public", "private", "protected", "readonly", "override"]
  allowModifiers (if ← hasTypes then allowed else []) present
  let bound ← g.binding
  if ← hasTypes then
    let _ ← eat "?"
  annotation g
  if ← eat "=" then
    let _ ← g.argument
  return bound.names

/-- What collects the remaining parameters or elements, from its dots on. It can have neither `?`
nor a default. -/
def restBinding (g : Grammar) : Parser Bound := do
  expect "..."
  let bound ← g.binding
  if (← hasTypes) && (← isAt "?") then
    complain
    advance
  annotation g
  if ← eat "=" then
    complain
    let _ ← g.argument
  return bound

/-- What is kept of a list whose last element can collect the rest: as much as methods and patterns
are complained about for. -/
structure RestList where
  /-- the number of plain elements -/
  count : Nat
  /-- the names that the elements bind -/
  names : List String
  /-- whether there is a collecting element, and whether a name binds it -/
  rest : Option Bool
  deriving DecidableEq, Repr

/-- Elements separated by commas, of which the last can collect the rest (`...`). No comma may
follow that one, except in declarations. -/
def listWithRest (g : Grammar) (close : String) (element : Parser (List String)) :
    Parser RestList := do
  let (list, _) ← foldWhile step (⟨0, [], none⟩, true)
  return list
where
  /-- One more element. The flag tells whether the list has only begun. -/
  step : RestList × Bool → Parser (Option (RestList × Bool)) := fun (list, first) => do
    if ← isAt close then return none
    if !first then
      expect ","
      if ← isAt close then
        complainIf (list.rest.isSome && !(← context).isAmbient)
        return none
    need list.rest.isNone
    if ← isAt "..." then
      let bound ← restBinding g
      return some (⟨list.count, list.names ++ bound.names, some bound.isName⟩, false)
    let names ← element
    return some (⟨list.count + 1, list.names ++ names, none⟩, false)

/-- What is kept of parameters. `this` is no parameter, and does not count as one. -/
structure Parameters where
  /-- whether `this` is declared among them -/
  hasThis : Bool
  /-- the others -/
  list : RestList
  deriving DecidableEq, Repr

/-- Parameters in parentheses. -/
def parameters (g : Grammar) : Parser Parameters := do
  expect "("
  let mut hasThis := false
  if (← hasTypes) && (← isAtWord "this") then
    hasThis := true
    advance
    annotation g
    if !(← isAt ")") then expect ","
  let list ← listWithRest g ")" (parameter g)
  expect ")"
  return ⟨hasThis, list⟩

/-! ## Members of types -/

/-- The end of a member of a type: a comma, or the end of a statement. -/
def memberEnd : Parser Unit := do
  if ← eat "," then return
  semicolon

/-- Whether an index signature starts here, such as `[key: string]`. A key in brackets looks the
same up to the colon. -/
def isIndexSignature : Parser Bool := do
  if !(← isAt "[") then return false
  peek false do
    advance
    if ← isAtAny ["...", "]"] then return true
    if ← isAtAnyWord modifierWords then
      advance
      if ← isAtReference then return true
    else
      if !(← isAtReference) then return false
      advance
    if ← isAtAny [":", ","] then return true
    if !(← isAt "?") then return false
    advance
    isAtAny [":", ",", "]"]

/-- An index signature such as `[key: K]: V`, with one parameter. -/
def indexSignature (g : Grammar) : Parser Unit := do
  expect "["
  let (parameters, _) ← commaListOf "]" do
    let _ ← anyName
    expect ":"
    g.type
  complainIf (parameters.length != 1)
  expect "]"
  expect ":"
  g.type
  memberEnd

/-- A signature of a call or of a construction, from its parameters on. -/
def callSignature (g : Grammar) : Parser Unit := do
  typeParameters g
  let _ ← parameters g
  if ← isAt ":" then returnType g ":"
  memberEnd

/-- A property or a method of a type, from its name on. -/
def propertySignature (g : Grammar) : Parser Unit := do
  let _ ← propertyKey g
  let _ ← eat "?"
  if ← isAtAny ["(", "<"] then
    callSignature g
  else
    annotation g
    memberEnd

/-- A member of a type. -/
def typeMember (g : Grammar) : Parser Unit := do
  if ← isAtAny ["(", "<"] then return ← callSignature g
  if (← isAtWord "new") && (← peek false (do advance; isAtAny ["(", "<"])) then
    advance
    return ← callSignature g
  let present ← modifiers false false
  if (← contextualModifier "get") || (← contextualModifier "set") then
    let _ ← propertyKey g
    return ← callSignature g
  if ← isIndexSignature then
    allowModifiers ["readonly"] present
    return ← indexSignature g
  allowModifiers ["readonly"] present
  propertySignature g

/-- The members of a type, in braces, each a `typeMember`. -/
def typeMembers (g : Grammar) : Parser Unit := do
  expect openBrace
  repeatWhile do
    if ← isAt closeBrace then return false
    typeMember g
    return true
  expect closeBrace

/-! ## Mapped types -/

/-- Whether a mapped type starts here, such as `{ [K in T]: U }`. -/
def isMappedType : Parser Bool := peek false do
  expect openBrace
  if ← isAtAny ["+", "-"] then
    advance
    return ← isAtWord "readonly"
  let _ ← eatWord "readonly"
  if !(← isAt "[") then return false
  advance
  if !(← isAtReference) then return false
  advance
  isAtWord "in"

/-- A mapped type, with what it does to `readonly` and `?`. -/
def mappedType (g : Grammar) : Parser Unit := do
  expect openBrace
  if ← isAtAny ["+", "-"] then
    advance
    expectWord "readonly"
  else
    let _ ← eatWord "readonly"
  expect "["
  let _ ← anyName
  expectWord "in"
  g.type
  if ← eatWord "as" then g.type
  expect "]"
  if ← isAtAny ["+", "-"] then
    advance
    expect "?"
  else
    let _ ← eat "?"
  annotation g
  let _ ← eat ";"
  expect closeBrace

/-! ## Tuples -/

/-- Whether the element of a tuple starts with a name for it, as in `[first: A, rest?: B]`. -/
def isNamedElement : Parser Bool := peek false do
  let _ ← eat "..."
  if (← token).word?.isNone then return false
  advance
  if ← isAt ":" then return true
  if !(← isAt "?") then return false
  advance
  isAt ":"

/-- An element of a tuple, which can have a name, a `?` or the three dots of a rest. -/
def tupleElement (g : Grammar) : Parser Unit := do
  if ← isNamedElement then
    let spread ← eat "..."
    let _ ← anyName
    let optional ← eat "?"
    complainIf (spread && optional)
    expect ":"
    let _ ← eat "..."
    g.type
  else
    let _ ← eat "..."
    g.type
    let _ ← eat "?"

/-! ## Operands -/

/-- Words that are types by themselves unless a dot follows. -/
def basicTypes : List String :=
  ["any", "unknown", "string", "number", "bigint", "symbol", "boolean", "undefined", "never",
   "object", "null", "intrinsic"]

/-- Whether the current token can start a type; `inParameter` where a function type or a type in
parentheses can not. -/
def isTypeStart (inParameter : Bool) : Parser Bool := do
  match (← token).kind with
  | .word name =>
    if name == "function" then return !inParameter
    if ["void", "null", "this", "typeof", "new", "true", "false", "import"].contains name then
      return true
    return isBindingWord name
  | .string .. | .number | .template .. => return true
  | .mark m =>
    if [openBrace, "[", "<", "|", "&", "*", "?", "!", "..."].contains m then return true
    if m == "-" then
      return !inParameter && (← peek false do advance; return (← token).kind == .number)
    if m == "(" then
      return !inParameter && (← peek false do
        advance
        return (← isAt ")") || (← isTypeStart' true) || (← isAt "..."))
    return false
  | _ => return false
where
  /-- Whether the token behind a parenthesis can start a parameter or a type. -/
  isTypeStart' (inParameter : Bool) : Parser Bool := do
    match (← token).kind with
    | .word name =>
      return !(reservedWords.contains name)
        || ["void", "null", "this", "typeof", "new", "true", "false", "import"].contains name
        || (name == "function" && !inParameter)
    | .string .. | .number | .template .. => return true
    | .mark m => return [openBrace, "[", "<", "|", "&", "*", "?", "!", "..."].contains m
    | _ => return false

/-- The parts of a template between and behind its expressions; `part` reads one expression. The
current token is the first part, and each later one is scanned from behind a closing brace
(`Place.templatePart`). -/
def templateParts (part : Parser Unit) (strict : Bool) : Parser Unit := do
  repeatWhile do
    match (← token).kind with
    | .template closed proper =>
      complainIf (strict && !proper)
      advance
      if closed then return false
      part
      need (← isAt closeBrace)
      let s ← get
      let (kind, place) := Place.templatePart ⟨s.place.rest, s.place.offset⟩
      rescan kind place
      return true
    | _ => giveUp

/-- A type that is imported where it is used, as in `import('./a').A`. It is no module node: its
name is resolved by other rules. -/
def importType (g : Grammar) : Parser Unit := do
  let _ ← eatWord "typeof"
  expectWord "import"
  expect "("
  g.type
  if ← eat "," then
    if !(← isAt ")") then
      need (← isAt openBrace)
      let _ ← g.argument
      let _ ← eat ","
  expect ")"
  if ← eat "." then dottedName
  typeArgumentsOfName g

/-- The type of a value: `typeof a.b`. -/
def typeQuery (g : Grammar) : Parser Unit := do
  expectWord "typeof"
  dottedName
  typeArgumentsOfName g

/-- What a function asserts when it returns, as in `asserts x is T`. -/
def assertion (g : Grammar) : Parser Unit := do
  expectWord "asserts"
  if !(← eatWord "this") then
    let _ ← bindingName
  if ← eatWord "is" then g.type

/-- Whether the word at the current token goes on with a name on the same line. -/
def nextIsNameOnSameLine : Parser Bool := peek false do
  advance
  return ((← isAtReference) || (← isAtWord "this")) && !(← isOnNewLine)

/-- A type without anything behind it. -/
def primaryType (g : Grammar) : Parser Unit := do
  match (← token).kind with
  | .string .. => advance
  | .number => advance
  | .template .. => templateParts g.type true
  | .word name =>
    if name == "this" then
      advance
      if (← isAtWord "is") && !(← isOnNewLine) then
        advance
        g.type
    else if name == "typeof" then
      if ← peek false (do advance; isAtWord "import") then importType g else typeQuery g
    else if name == "import" then
      importType g
    else if name == "asserts" && (← nextIsNameOnSameLine) then
      assertion g
    else if ["true", "false", "void"].contains name then
      advance
    else if basicTypes.contains name && !(← peek false (do advance; isAt ".")) then
      advance
    else
      typeReference g
  | .mark m =>
    if m == openBrace then
      if ← isMappedType then mappedType g else typeMembers g
    else if m == "[" then
      expect "["
      let _ ← commaList "]" (tupleElement g)
      expect "]"
    else if m == "(" then
      expect "("
      within (fun c => { c with isExtends := true }) g.type
      expect ")"
    else if m == "-" then
      advance
      need ((← token).kind == .number)
      advance
    else if m == "*" then
      advance
    else if m == "?" then
      advance
      if !(← isAtAny [",", closeBrace, ")", ">", "=", "|"]) then g.type
    else if m == "!" then
      advance
      g.parser .typeOperator
    else
      giveUp
  | _ => giveUp

/-- A type with brackets and marks behind it, as in `T[]`. -/
def postfixType (g : Grammar) : Parser Unit := do
  primaryType g
  repeatWhile do
    if ← isOnNewLine then return false
    if ← isAt "!" then
      advance
      return true
    if ← isAt "?" then
      if ← peek false (do advance; isTypeStart false) then return false
      advance
      return true
    if ← isAt "[" then
      expect "["
      if ← isTypeStart false then g.type
      expect "]"
      return true
    return false

/-- A type with an operator of words before it, such as `keyof`. -/
def typeOperator (g : Grammar) : Parser Unit := do
  if ← isAtAnyWord ["keyof", "unique", "readonly"] then
    advance
    g.parser .typeOperator
  else if ← isAtWord "infer" then
    advance
    let _ ← bindingName
    let _ ← attempt do
      expectWord "extends"
      within (fun c => { c with isExtends := false }) g.type
      need (!(← context).isExtends || !(← isAt "?"))
  else
    within (fun c => { c with isExtends := true }) (postfixType g)

/-- Types joined by an operator (`|` or `&`), which may also stand before the first. -/
def joinedTypes (mark : String) (part : Parser Unit) : Parser Unit := do
  let _ ← eat mark
  part
  repeatWhile do
    if ← eat mark then
      part
      return true
    return false

/-! ## Function types -/

/-- Skips the start of a parameter; the answer tells whether one was there. -/
def skipParameterStart (g : Grammar) : Parser Bool := do
  if ← isAtAnyWord modifierWords then
    let _ ← modifiers false false
  if (← isAtReference) || (← isAtAnyWord ["this", "await", "yield"]) then
    advance
    return true
  if ← isAtAny ["[", openBrace] then
    let before := (← get).flawed
    let _ ← g.binding
    return before == (← get).flawed
  return false

/-- Whether a function type starts here. `(a)` can be a type in parentheses, so that what follows
the first parameter decides. -/
def isFunctionType (g : Grammar) : Parser Bool := do
  if ← isAt "<" then return true
  if ← isAtWord "new" then return true
  if ← isAtWord "abstract" then
    return ← peek false (do advance; isAtWord "new")
  if !(← isAt "(") then return false
  peek false do
    advance
    if ← isAtAny [")", "..."] then return true
    if ← skipParameterStart g then
      if ← isAtAny [":", ",", "?", "="] then return true
      if ← eat ")" then return ← isAt "=>"
    return false

/-- A function type or, behind `new`, the type of a constructor. -/
def functionType (g : Grammar) : Parser Unit := do
  let _ ← eatWord "abstract"
  let _ ← eatWord "new"
  typeParameters g
  let _ ← parameters g
  returnType g "=>"

/-- A type. Behind `extends` it can be the condition of another one, unless it stands in such a
condition itself (`Context.isExtends`). -/
def typeProduction (g : Grammar) : Parser Unit := do
  if ← isFunctionType g then return ← functionType g
  joinedTypes "|" (joinedTypes "&" (g.parser .typeOperator))
  if (← context).isExtends && !(← isOnNewLine) && (← isAtWord "extends") then
    expectWord "extends"
    within (fun c => { c with isExtends := false }) g.type
    expect "?"
    within (fun c => { c with isExtends := true }) g.type
    expect ":"
    within (fun c => { c with isExtends := true }) g.type

end DotJs.Source
