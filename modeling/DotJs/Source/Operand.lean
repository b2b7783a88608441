import DotJs.Source.Class

/-!
# Operands

Names, literals, objects, arrays, calls and properties: everything that operators
are applied to. A call of `import` is the one operand that names a module, and is
recorded with its kind of argument.

What follows an operand belongs to it for as long as it is a property, a template,
a call, type arguments or an exclamation mark. `Chain` is the operand so far.
-/

namespace DotJs.Source

open DotJs.Source.Parser

/-! ## Literals -/

/-- A regular expression. The current token is the operator that its slash looks like, and is
scanned again (`Place.regexEnd?`). -/
def regexLiteral : Parser Unit := do
  let s ← get
  match s.token.kind with
  | .mark m =>
    match Place.regexEnd? ⟨m.toList.drop 1 ++ s.place.rest, s.token.start + 1⟩ with
    | some place =>
      rescan .regex place
      advance
    | none => giveUp
  | _ => giveUp

/-- A template. Only one that is handed to a function, as in `memberStep`, can hold escapes without
a meaning. -/
def templateLiteral (g : Grammar) (tagged : Bool) : Parser Unit :=
  templateParts (do let _ ← within (fun c => { c with isIn := true }) g.expression) (!tagged)

/-! ## Arrays and objects -/

/-- An element of an array, which can be missing between two commas. -/
def arrayElement (g : Grammar) : Parser ElementShape := do
  if ← isAt "," then return .hole
  if ← eat "..." then return .spread (← g.assignment)
  return .plain (← g.assignment)

/-- An array. What it holds is kept as shapes, since `=` can follow and make a pattern of it. -/
def arrayLiteral (g : Grammar) : Parser Shape := do
  expect "["
  let (elements, trailing) ← within (fun c => { c with isIn := true })
    (commaListOf "]" (arrayElement g))
  expect "]"
  return .array elements trailing

/-- A getter or a setter (`get`, `set`) of an object, from its key on. -/
def objectAccessor (g : Grammar) (kind : MethodKind) (present : List String) :
    Parser PropertyShape := do
  let _ ← propertyKey g
  methodRest g kind false false false
  allowModifiers [] present
  return .method

/-- A property of an object. A name that stands alone is a property of that name; with a default it
is recorded, because it has a meaning only in a pattern (`Cursor.defaults`). -/
def objectProperty (g : Grammar) : Parser PropertyShape := do
  if ← eat "..." then return .spread (← g.assignment)
  let present ← modifiers false false
  if ← contextualModifier "get" then return ← objectAccessor g .getter present
  if ← contextualModifier "set" then return ← objectAccessor g .setter present
  let isGenerator ← eat "*"
  let isName ← isAtReference
  let start := (← token).start
  let _ ← propertyKey g
  if isGenerator || (← isAtAny ["(", "<"]) then
    allowModifiers ["async"] present
    methodRest g .plain (present.contains "async") isGenerator false
    return .method
  allowModifiers [] present
  if isName && !(← isAt ":") then
    if ← eat "=" then
      let _ ← g.argument
      modify fun s => { s with defaults := start :: s.defaults }
    return .shorthand start
  expect ":"
  return .keyed (← g.assignment)

/-- An object. What it holds is kept as shapes (`PropertyShape`), as for arrays. -/
def objectLiteral (g : Grammar) : Parser Shape := do
  expect openBrace
  let (properties, trailing) ← within (fun c => { c with isIn := true })
    (commaListOf closeBrace (objectProperty g))
  expect closeBrace
  return .object properties trailing

/-! ## Parentheses and arguments -/

/-- An expression in parentheses. What is kept tells that these stand around it: `(a) = b` is an
assignment, and `({a}) = b` is none. -/
def parenthesized (g : Grammar) : Parser Shape := do
  expect "("
  let (shapes, trailing) ← within (fun c => { c with isIn := true, isDecorator := false })
    (commaListOf ")" g.assignment)
  expect ")"
  need (!trailing)
  match shapes with
  | [] => giveUp
  | [shape] => return .parenthesized shape
  | _ => return .parenthesized .other

/-- The arguments of a call, of which `...` can spread any. -/
def callArguments (g : Grammar) : Parser Unit := do
  expect "("
  let _ ← within (fun c => { c with isIn := true, isDecorator := false }) <| commaList ")" do
    let _ ← eat "..."
    let _ ← g.assignment
  expect ")"

/-! ## Type arguments -/

/-- Whether the current token can start an expression. -/
def isExpressionStart : Parser Bool := do
  match (← token).kind with
  | .word name =>
    return isBindingWord name || ["this", "super", "null", "true", "false", "function", "class",
      "new", "import", "delete", "typeof", "void", "in", "instanceof"].contains name
  | .string .. | .number | .template .. | .privateName _ | .regex => return true
  | .mark m =>
    return !([closeBrace, ")", "]", ";", ",", ":", "=>", "?.", ".", "...", "?"].contains m)
  | _ => return false

/-- Words and punctuators between two operands. -/
def binaryOperators : List String :=
  ["??", "||", "&&", "|", "^", "&", "==", "!=", "===", "!==", "<", ">", "<=", ">=", "instanceof",
   "in", "as", "satisfies", "<<", ">>", ">>>", "+", "-", "*", "/", "%", "**"]

/-- Whether type arguments of an expression can end before the current token: `a<b>(c)` is a call,
and `a<b>c` are two comparisons. -/
def canFollowTypeArguments : Parser Bool := do
  match (← token).kind with
  | .template .. => return true
  | .mark "(" => return true
  | .mark m =>
    if ["<", ">", "+", "-"].contains m then return false
    if binaryOperators.contains m then return true
  | .word w => if binaryOperators.contains w then return true
  | _ => pure ()
  return (← isOnNewLine) || !(← isExpressionStart)

/-- Type arguments behind an expression, as in `f<T>(x)`. They are taken only when what follows
makes sense behind them; otherwise the bracket is an operator. -/
def eatTypeArguments (g : Grammar) : Parser Bool := do
  if !(← hasTypes) || !(← isAtAny ["<", "<<"]) then return false
  let taken ← attempt do
    narrowLess
    expect "<"
    let isEmpty ← isAt ">"
    let _ ← commaList ">" g.type
    need ((← wideMark) != ">=")
    expect ">"
    need (← canFollowTypeArguments)
    complainIf isEmpty
  return taken.isSome

/-! ## What follows an operand -/

/-- An operand as far as it was read. The `?.` in it is remembered to its end, because nothing
behind one can be assigned to. -/
structure Chain where
  /-- the operand -/
  shape : Shape
  /-- whether a `?.` stands in it -/
  isOptional : Bool

/-- The shape of a finished operand. What can be skipped by `?.` cannot be assigned to. -/
def Chain.finish (c : Chain) : Shape :=
  if c.isOptional then
    match c.shape with
    | .instantiated _ => .instantiated .other
    | _ => .other
  else
    c.shape

/-- Takes a `?.` that a property follows; before a call it is left for `callOnce`. -/
def eatOptionalDot : Parser Bool := do
  if !(← isAt "?.") then return false
  let follows ← peek false do
    advance
    match (← token).kind with
    | .word _ | .privateName _ | .template .. => return true
    | .mark m => return m == "["
    | _ => return false
  if follows then take
  return follows

/-- The name of a property behind a dot. -/
def propertyName : Parser Unit := do
  match (← token).kind with
  | .word _ | .privateName _ => advance
  | _ => giveUp

/-- One more property, template, exclamation mark or list of type arguments. -/
def memberStep (g : Grammar) (mayBeOptional : Bool) (c : Chain) : Parser (Option Chain) := do
  let optionalDot ← if mayBeOptional then eatOptionalDot else pure false
  let c := { c with isOptional := c.isOptional || optionalDot }
  let named ← if optionalDot then
      pure !((← isAt "[") || (← isAtTemplate))
    else
      eat "."
  if named then
    match c.shape with
    | .instantiated _ => complain
    | _ => pure ()
    propertyName
    return some { c with shape := .member }
  if (optionalDot || !(← context).isDecorator) && (← isAt "[") then
    expect "["
    let _ ← within (fun c => { c with isIn := true }) g.expression
    expect "]"
    return some { c with shape := .member }
  if ← isAtTemplate then
    complainIf c.isOptional
    templateLiteral g true
    return some { c with shape := .other }
  if ← hasTypes then
    if (← isAt "!") && !(← isOnNewLine) then
      take
      return some { c with shape := .typed c.shape }
    if ← eatTypeArguments g then
      return some { c with shape := .instantiated c.shape }
  return none
where
  /-- Whether a template starts here. -/
  isAtTemplate : Parser Bool := do
    match (← token).kind with
    | .template .. => return true
    | _ => return false

/-- One more call, if one follows. -/
def callOnce (g : Grammar) (c : Chain) : Parser (Option Chain) := do
  if ← eat "?." then
    let _ ← eatTypeArguments g
    callArguments g
    return some ⟨.other, true⟩
  if ← isAt "(" then
    callArguments g
    return some { c with shape := .other }
  return none

/-- Everything that belongs to an operand and stands behind it. Calls are apart from the other steps
because `new` takes these and no call. -/
def chainRest (g : Grammar) (c : Chain) : Parser Chain := do
  let c ← foldWhile (memberStep g true) c
  foldWhile (step g) c
where
  /-- One more call, and what follows it. -/
  step (g : Grammar) (c : Chain) : Parser (Option Chain) := do
    match ← callOnce g c with
    | none => return none
    | some c => return some (← foldWhile (memberStep g true) c)

/-! ## Calls of `new` and `import` -/

/-- A call of `import`, from its parenthesis on. It started at the given offset. Its specifier is a
literal if the argument is a string and nothing else, not even one in parentheses; the nodes found
in the arguments stand inside. -/
def importCall (g : Grammar) (start : Nat) : Parser Shape := do
  let (specifier, inside) ← collect do
    expect "("
    let shape ← within (fun c => { c with isIn := true }) do
      let shape ← g.assignment
      if ← eat "," then
        if !(← isAt ")") then
          let _ ← g.assignment
          let _ ← eat ","
      return shape
    expect ")"
    match shape with
    | .text literal => return Specifier.literal literal
    | _ => return .computed
  record (.mk .dynamicImport start specifier inside)
  return .importCall

/-- What starts with `import` in an expression: a call, or `import.meta`, which names no module. -/
def importExpression (g : Grammar) : Parser Shape := do
  let start := (← token).start
  expectWord "import"
  if ← eat "." then
    if ← eatWord "meta" then return .other
    need ((← eatWord "source") || (← eatWord "defer"))
  importCall g start

/-- What starts with `new`. The arguments can be missing. -/
def newExpression (g : Grammar) : Parser Shape := do
  expectWord "new"
  if ← eat "." then
    expectWord "target"
    return .other
  let shape ← g.parser .primary
  match shape with
  | .importCall => complain
  | _ => pure ()
  let _ ← foldWhile (memberStep g false) ⟨shape, false⟩
  if ← isAt "(" then callArguments g else complainIf (← isAt "?.")
  return .other

/-! ## Operands -/

/-- The word `super`, which has no value of its own. -/
def superReference : Parser Shape := do
  expectWord "super"
  complainIf (!(← isAtAny [".", "(", "["]))
  return .other

/-- An operand without anything behind it. -/
def primary (g : Grammar) : Parser Shape := do
  match (← token).kind with
  | .number =>
    advance
    return .other
  | .string .. => return .text (← stringLiteral)
  | .template .. =>
    templateLiteral g false
    return .other
  | .mark m =>
    if m == "(" then parenthesized g
    else if m == "[" then arrayLiteral g
    else if m == openBrace then objectLiteral g
    else if m == "/" || m == "/=" then
      regexLiteral
      return .other
    else if m == "@" then
      decoratedClass g
      return .other
    else if m == "<" then
      need (← hasMarkup)
      g.parser (.markup false)
      return .other
    else
      giveUp
  | .word name =>
    if ["this", "true", "false", "null"].contains name then
      take
      return .other
    if name == "super" then return ← superReference
    if name == "new" then return ← newExpression g
    if name == "import" then return ← importExpression g
    if name == "class" then
      let _ ← classRest g true
      return .other
    if ← isAtFunction then
      functionExpression g
      return .other
    need (← isAtReference)
    advance
    return .name name
  | _ => giveUp

/-- An operand with everything that belongs to it: any number of `memberStep` and `callOnce`. -/
def leftHandSide (g : Grammar) : Parser Shape := do
  let shape ← primary g
  return (← chainRest g ⟨shape, false⟩).finish

end DotJs.Source
