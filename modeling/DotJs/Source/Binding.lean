import DotJs.Source.Annotation

/-!
# Bindings

What a variable, a parameter or the argument of a `catch` is bound by: a name, or
a pattern that takes an object or an array apart.
-/

namespace DotJs.Source

open DotJs.Source.Parser

/-- The default of an element of a pattern, behind `=`. -/
def initializer (g : Grammar) : Parser Unit := do
  if ← eat "=" then
    let _ ← g.argument

/-- An element of a pattern such as `{ a: b = c }`, with its type and default. The answer lists the
names that it binds. -/
def bindingElement (g : Grammar) : Parser (List String) := do
  let bound ← g.binding
  if ← hasTypes then
    let _ ← eat "?"
  annotation g
  initializer g
  return bound.names

/-- A property of an object pattern: `name`, `name = value`, or a key and the element behind a
colon. -/
def bindingProperty (g : Grammar) : Parser (List String) := do
  let name := (← token).word?
  let isName := (name.map isBindingWord).getD false
  let _ ← propertyKey g
  if isName && !(← isAt ":") then
    checkName (name.getD "") (← context)
    initializer g
    return name.toList
  else
    expect ":"
    bindingElement g

/-- An element of an array pattern, or nothing between two commas. -/
def bindingSlot (g : Grammar) : Parser (List String) := do
  if ← isAt "," then return []
  bindingElement g

/-- What a variable is bound by: a name, or a pattern in braces or brackets. -/
def bindingProduction (g : Grammar) : Parser Bound := do
  if ← isAt openBrace then
    expect openBrace
    let list ← listWithRest g closeBrace (bindingProperty g)
    complainIf (list.rest == some false)
    expect closeBrace
    return ⟨list.names, false⟩
  if ← isAt "[" then
    expect "["
    let list ← listWithRest g "]" (bindingSlot g)
    expect "]"
    return ⟨list.names, false⟩
  return ⟨[← bindingName], true⟩

end DotJs.Source
