import DotJs.Source.Function

/-!
# Classes

Classes, as declarations and as expressions. Which modifiers a member can have
depends on whether the language has types; a few names are kept from members of
some kinds.
-/

namespace DotJs.Source

open DotJs.Source.Parser

/-- The key of a member, which can be private, as in `#name`. -/
def memberKey (g : Grammar) : Parser Key := do
  match (← token).kind with
  | .privateName name =>
    complainIf (name == "constructor")
    advance
    return .hidden
  | _ => propertyKey g

/-- Whether a key is a given name, written out. A `computed` key has no name that is known here. -/
def Key.isNamed (k : Key) (name : String) : Bool :=
  match k with
  | .word n => n == name
  | .string v => v == name.toList
  | .other | .hidden => false

/-- Modifiers of members: without types, only `static`, `async` and `accessor` are among them. -/
def memberModifiers (types : Bool) : List String :=
  if types then
    ["public", "private", "protected", "static", "abstract", "override", "readonly", "declare",
     "accessor", "async"]
  else
    ["static", "accessor", "async"]

/-- A method from its parameters on. A `constructor` can be neither asynchronous nor a generator. -/
def classMethod (g : Grammar) (key : Key) (present : List String) (isGenerator : Bool) :
    Parser Unit := do
  let isStatic := present.contains "static"
  let isAsync := present.contains "async"
  complainIf (isStatic && key.isNamed "prototype")
  complainIf (!isStatic && key.isNamed "constructor" && (isAsync || isGenerator))
  complainIf (["readonly", "declare", "accessor"].any present.contains)
  methodRest g .plain isAsync isGenerator (← hasTypes)

/-- A getter or a setter (`get`, `set`) from its key on. -/
def classAccessor (g : Grammar) (kind : MethodKind) (present : List String) : Parser Unit := do
  let key ← memberKey g
  let isStatic := present.contains "static"
  complainIf (isStatic && key.isNamed "prototype")
  complainIf (!isStatic && key.isNamed "constructor")
  complainIf (["readonly", "declare", "accessor", "async"].any present.contains)
  methodRest g kind false false (← hasTypes)

/-- A field from the token behind its key on. -/
def classField (g : Grammar) (key : Key) (present : List String) : Parser Unit := do
  complainIf (present.contains "async")
  complainIf (key.isNamed "constructor")
  complainIf (present.contains "static" && key.isNamed "prototype")
  if ← hasTypes then
    let _ ← eat "!"
  annotation g
  if ← eat "=" then
    let _ ← within (fun c => { c with isIn := true, isYield := false, isAwait := false })
      g.assignment
  semicolon

/-- A member of a class: a block, an accessor, an index signature, a method or a field. -/
def classMember (g : Grammar) : Parser Unit := do
  let types ← hasTypes
  decorators g
  let present ← modifiers true true
  allowModifiers (memberModifiers types) present
  if (← isAtWord "static") && (← peek false (do advance; isAt openBrace)) then
    take
    return ← within
      (fun c => { c with isAwait := true, isYield := false, isReturn := false, isIn := true })
      (block g)
  if ← contextualModifier "get" then return ← classAccessor g .getter present
  if ← contextualModifier "set" then return ← classAccessor g .setter present
  if types && (← isIndexSignature) then return ← indexSignature g
  let isGenerator ← eat "*"
  let key ← memberKey g
  if types then
    let _ ← eat "?"
  if isGenerator || (← isAtAny ["(", "<"]) then
    classMethod g key present isGenerator
  else
    classField g key present

/-- The members of a class (`classMember`), in braces, with any number of semicolons between
them. -/
def classBody (g : Grammar) : Parser Unit := do
  expect openBrace
  repeatWhile do
    if ← eat ";" then return true
    if ← isAt closeBrace then return false
    classMember g
    return true
  expect closeBrace

/-- What a class `extends`, with its type arguments. -/
def superclass (g : Grammar) : Parser Unit := do
  match ← g.parser .leftHandSide with
  | .instantiated _ => pure ()
  | _ => if (← hasTypes) && (← isAtOpenAngle) then typeArgumentList g

/-- What a class `extends` and `implements`. Each clause can stand once, and the first before the
second. -/
def heritage (g : Grammar) : Parser Unit := do
  let _ ← foldWhile step []
where
  /-- One more clause; each kind can stand once. -/
  step (seen : List String) : Parser (Option (List String)) := do
    if ← isAtWord "extends" then
      complainIf (!seen.isEmpty)
      take
      superclass g
      repeatWhile do
        if ← eat "," then
          complain
          superclass g
          return true
        return false
      return some ("extends" :: seen)
    if (← hasTypes) && (← isAtWord "implements") then
      complainIf (seen.contains "implements")
      take
      typeReference g
      repeatWhile do
        if ← eat "," then
          typeReference g
          return true
        return false
      return some ("implements" :: seen)
    return none

/-- Whether the word `implements` opens a clause here and names no class. -/
def isImplementsClause : Parser Bool := do
  if !(← isAtWord "implements") then return false
  peek false do
    advance
    return (← token).word?.isSome

/-- A class, from `class` on. The answer is its name, empty when there is none. -/
def classRest (g : Grammar) (nameOptional : Bool) : Parser String := do
  expectWord "class"
  let name ←
    if (← isAtBindingName) && !(← isImplementsClause) then
      bindingName
    else do
      complainIf (!nameOptional)
      pure ""
  typeParameters g
  heritage g
  within (fun c => { c with isDecorator := false }) (classBody g)
  return name

/-- A class with decorators before it, as an expression. -/
def decoratedClass (g : Grammar) : Parser Unit := do
  decorators g
  let _ ← classRest g true

end DotJs.Source
