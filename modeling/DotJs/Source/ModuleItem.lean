import DotJs.Source.Declaration

/-!
# Imports and exports

The declarations that name other modules, and those that export what is declared
here. All of them are recorded but for a default export, which names nothing.

In braces, a language with types gives the word `type` a meaning of its own, next
to the name that it still is. `exchange` tells them apart.
-/

namespace DotJs.Source

open DotJs.Source.Parser

/-! ## Names in braces -/

/-- A name as another module knows it: a word, or any text in quotes, as in `export { a as "b"
}`. -/
inductive ExchangeName where
  /-- a word -/
  | word (name : String)
  /-- a string -/
  | string (value : Text)
  deriving DecidableEq, Repr

/-- The characters of a name, by which two exports of one name are found. -/
def ExchangeName.text : ExchangeName → Text
  | .word name => name.toList
  | .string value => value

/-- Whether a name can stand here. -/
def isAtExchangeName : Parser Bool := do
  match (← token).kind with
  | .word _ | .string .. => return true
  | _ => return false

/-- A name as another module knows it. Half a surrogate pair is no text, and complained about. -/
def exchangeName : Parser ExchangeName := do
  match (← token).kind with
  | .string value _ whole =>
    complainIf (!whole)
    advance
    return .string value
  | _ => return .word (← anyName)

/-- A name, and another one behind `as`. -/
structure Exchange where
  /-- the first name -/
  name : ExchangeName
  /-- the name behind `as` -/
  other : Option ExchangeName
  deriving DecidableEq, Repr

/-- A name in braces behind the word `type`, which may be the name itself. `type as as as` has a
reading, and it is the number of words that decides. -/
def exchangeBehindType : Parser Exchange := do
  let typeWord := ExchangeName.word "type"
  if ← isAtWord "as" then
    let firstAs ← exchangeName
    if ← isAtWord "as" then
      let secondAs ← exchangeName
      if ← isAtExchangeName then return ⟨firstAs, some (← exchangeName)⟩
      return ⟨typeWord, some secondAs⟩
    if ← isAtExchangeName then return ⟨typeWord, some (← exchangeName)⟩
    return ⟨firstAs, none⟩
  if ← isAtExchangeName then
    let name ← exchangeName
    if ← eatWord "as" then return ⟨name, some (← exchangeName)⟩
    return ⟨name, none⟩
  return ⟨typeWord, none⟩

/-- A name in braces, with another one behind `as`. -/
def exchange : Parser Exchange := do
  let name ← exchangeName
  if (← hasTypes) && name == .word "type" then return ← exchangeBehindType
  if ← eatWord "as" then return ⟨name, some (← exchangeName)⟩
  return ⟨name, none⟩

/-! ## Attributes -/

/-- One attribute of an import, such as `type: 'json'`: a key and a text. The answer is the key. -/
def importAttribute : Parser Text := do
  let key ← exchangeName
  expect ":"
  let _ ← stringLiteral
  return key.text

/-- Whether no two of some texts are equal. -/
def allDifferent (texts : List Text) : Bool := decide texts.Nodup

/-- The attributes of an import (`with { type: 'json' }`), if there are any. No two have one key. -/
def importAttributes : Parser Unit := do
  let isThere := (← isAtWord "with") || ((← isAtWord "assert") && !(← isOnNewLine))
  if isThere then
    take
    expect openBrace
    let (keys, _) ← commaListOf closeBrace importAttribute
    expect closeBrace
    complainIf (!allDifferent keys)

/-! ## Imports -/

/-- A name that is imported into this module. Without a second name, it must not be a keyword. -/
def importSpecifier : Parser Unit := do
  let names ← exchange
  match names.other.getD names.name with
  | .string _ => complain
  | .word name =>
    complainIf (!isBindingWord name)
    if names.other.isNone then
      complainIf (name == "await" || name == "yield")
    else
      checkName name (← context)

/-- All names of a module under one name (`* as n`), or names in braces. -/
def importedNames : Parser Unit := do
  if ← eat "*" then
    expectWord "as"
    let _ ← bindingName
  else
    expect openBrace
    let _ ← commaList closeBrace importSpecifier
    expect closeBrace

/-- A name, if one stands here. -/
def optionalName : Parser (Option String) := do
  if ← isAtBindingName then return some (← bindingName)
  return none

/-- Whether the current word is `from` and the module follows. Otherwise it may be a name. -/
def isAtFromClause : Parser Bool := do
  if !(← isAtWord "from") then return false
  peek false do
    advance
    return (← token).isString

/-- The imported default behind a word that may say what is imported: `type`, `source` or
`defer`. -/
def importedDefault (first : Option String) : Parser (Option String) := do
  let namesFollow ← isAtAny ["*", openBrace]
  let nameFollows := (← isAtBindingName) && !(← isAtFromClause)
  match first with
  | some "type" =>
    if (← hasTypes) && (nameFollows || namesFollow) then optionalName else return first
  | some "source" => if nameFollows then optionalName else return first
  | some "defer" => if ← isAt "*" then return none else return first
  | _ => return first

/-- An import from behind `import` on, which stands at the given offset. The answer tells whether it
only names something otherwise (`importAlias`); any other import is recorded, one of types too. -/
def importRest (start : Nat) : Parser Bool := do
  if !(← token).isString then
    let name ← importedDefault (← optionalName)
    if name.isSome then
      if !(← isAt ",") && !(← isAtWord "from") then
        importAlias
        return true
      if ← eat "," then importedNames
    else
      importedNames
    expectWord "from"
  let source ← stringLiteral
  importAttributes
  semicolon
  record (.mk .importDeclaration start (.literal source) [])
  return false

/-! ## Exports -/

/-- Remembers a name that is exported, for `Cursor.isAccepted` to find one that is twice. -/
def exportName (name : Text) : Parser Unit := modify fun s =>
  { s with exported := name :: s.exported }

/-- Words that cannot be exported by their own name, besides the reserved ones. -/
def unexportableWords : List String :=
  ["await", "yield", "implements", "interface", "package", "private", "protected", "public",
   "static"]

/-- Complains about a name that no variable of this module can have. -/
def checkLocal (names : Exchange) : Parser Unit :=
  match names.name with
  | .string _ => complain
  | .word name => complainIf (!isBindingWord name || unexportableWords.contains name)

/-- Names exported in braces, possibly those of another module. Without one, the node that is
recorded has no specifier (`Specifier.absent`). -/
def exportNames (start : Nat) : Parser Unit := do
  let _ ← eatWord "type"
  expect openBrace
  let (specifiers, _) ← commaListOf closeBrace exchange
  expect closeBrace
  let fromModule := (← eatWord "from") && (← isAtLiteral)
  let source ← if fromModule then
      pure (Specifier.literal (← stringLiteral))
    else
      pure Specifier.absent
  if fromModule then importAttributes else specifiers.forM checkLocal
  semicolon
  specifiers.forM fun names => exportName (names.other.getD names.name).text
  record (.mk .exportNamed start source [])
where
  /-- Whether a literal stands here. -/
  isAtLiteral : Parser Bool := do
    match (← token).kind with
    | .string .. | .number => return true
    | .word name => return ["true", "false", "null"].contains name
    | _ => return false

/-- All names of another module, exported as they are (`export * from`) or under one name. -/
def exportAll (start : Nat) : Parser Unit := do
  let _ ← eatWord "type"
  expect "*"
  let name ← if ← eatWord "as" then pure (some (← exchangeName)) else pure none
  expectWord "from"
  let source ← stringLiteral
  importAttributes
  semicolon
  name.toList.forM fun n => exportName n.text
  record (.mk .exportAll start (.literal source) [])

/-- A declaration that is exported. It is a node without a specifier, and the nodes found in it
(`collect`) stand inside. -/
def exportDeclaration (g : Grammar) (start : Nat) (decorated : Bool) : Parser Unit := do
  let (names, inside) ← collect do
    let decoratedHere ← isAt "@"
    complainIf (decorated && decoratedHere)
    decorators g
    let isDecorated := decorated || decoratedHere
    let isClass ← peek false do
      let _ ← if ← hasTypes then declarationModifiers else pure []
      isAtWord "class"
    complainIf (isDecorated && !isClass)
    declaration g
  names.forM fun name => exportName name.toList
  record (.mk .exportNamed start .absent inside)

/-- What a module exports by default, from `default` on. It is no module node, and those found in it
stand where it does. -/
def exportDefault (g : Grammar) (decorated : Bool) : Parser Unit := do
  expectWord "default"
  exportName "default".toList
  let decoratedHere ← isAt "@"
  complainIf (decorated && decoratedHere)
  decorators g
  let isDecorated := decorated || decoratedHere
  let types ← hasTypes
  if ← isAtWord "class" then
    let _ ← classRest g true
  else if types && (← isAtWord "abstract") && (← peek false (do advance; isAtWord "class")) then
    take
    let _ ← classRest g true
  else
    complainIf isDecorated
    if types && (← isAtWord "interface") && (← nextIsNameOnSameLine) then
      interfaceDeclaration g
    else if ← isAtFunction then
      let isAsync ← eatWord "async"
      let _ ← functionDeclaration g isAsync true
    else
      let _ ← g.argument
      semicolon

/-- An export, from `export` on. -/
def exportItem (g : Grammar) (decorated : Bool) : Parser Unit := do
  let start := (← token).start
  expectWord "export"
  let types ← hasTypes
  if ← isAtWord "import" then
    take
    need (← importRest (← get).previousStop)
    record (.mk .exportNamed start .absent [])
  else if types && (← eat "=") then
    let _ ← g.argument
    semicolon
  else if types && (← eatWord "as") then
    expectWord "namespace"
    let _ ← anyName
    semicolon
  else if ← isAtWord "default" then
    exportDefault g decorated
  else if (← isAt "*") || (types && (← typeThen "*")) then
    complainIf decorated
    exportAll start
  else if (← isAt openBrace) || (types && (← typeThen openBrace)) then
    complainIf decorated
    exportNames start
  else
    exportDeclaration g start decorated
where
  /-- Whether the word `type` stands here, and a given punctuator behind it. -/
  typeThen (mark : String) : Parser Bool := do
    if !(← isAtWord "type") then return false
    peek false do
      advance
      isAt mark

end DotJs.Source
