import DotJs.Source.Arrow

/-!
# Operators

Operators before, behind and between operands, conditional expressions and
assignments. Operators between operands are ordered by level: one of a higher level
binds tighter. `binaryProduction` reads operands and operators above a level, so that
an operator stops at the first one that does not bind tighter than itself. Powers
alone group to the right.
-/

namespace DotJs.Source

open DotJs.Source.Parser

/-! ## Operators before and behind an operand -/

/-- Operators before an operand that leave it as it is, as far as they are words: `typeof` and its
like. -/
def unaryWords : List String := ["delete", "void", "typeof"]

/-- Whether an operator before an operand stands here. -/
def isAtUnary : Parser Bool := do
  return (← isAtAny ["+", "-", "~", "!"]) || (← isAtAnyWord unaryWords)

/-- Whether a word, a string or a number follows on the same line. -/
def nextIsOperandOnSameLine : Parser Bool := peek false do
  advance
  return (← isAtLiteralKey) && !(← isOnNewLine)

/-- Whether an operator written as a word stands here and is not used as a name. Where `await` is a
name, one with an operand behind it is still meant as the operator, and complained about. -/
def isAtWordOperator (name : String) (isOperator : Bool) : Parser Bool := do
  if !(← isAtWord name) then return false
  if isOperator then return true
  nextIsOperandOnSameLine

/-- `++` or `--` before or behind an operand. -/
def updateExpression (g : Grammar) : Parser Shape := do
  if ← isAtAny ["++", "--"] then
    take
    (← g.parser .unary).asSimpleTarget
    return .other
  if (← hasMarkup) && (← isAt "<") then
    g.parser (.markup false)
    return .other
  let shape ← g.parser .leftHandSide
  if (← isAtAny ["++", "--"]) && !(← isOnNewLine) then
    take
    shape.asSimpleTarget
    return .other
  return shape

/-- A type in angle brackets before an operand: `<T>a`, which is only read so where there is no
markup. -/
def typeAssertion (g : Grammar) : Parser Shape := do
  need (← hasTypes)
  expect "<"
  g.type
  expect ">"
  return .typed (← g.parser .unary)

/-- An operand with operators before or behind it. -/
def unaryProduction (g : Grammar) : Parser Shape := do
  if ← isAtUnary then
    take
    let _ ← g.parser .unary
    return .unary
  if (← isAt "<") && !(← hasMarkup) then return ← typeAssertion g
  let c ← context
  if ← isAtWordOperator "await" c.isAwait then
    complainIf (!c.isAwait)
    take
    let _ ← within (fun c => { c with isAwait := true }) (g.parser .unary)
    return .unary
  updateExpression g

/-! ## Operators between operands -/

/-- The level of an operator between operands (`binaryOperators`): one of a higher level binds
tighter. -/
def levelOf (operator : String) : Option Nat :=
  match operator with
  | "??" => some 1
  | "||" => some 2
  | "&&" => some 3
  | "|" => some 4
  | "^" => some 5
  | "&" => some 6
  | "==" | "!=" | "===" | "!==" => some 7
  | "<" | ">" | "<=" | ">=" | "instanceof" | "in" | "as" | "satisfies" => some 8
  | "<<" | ">>" | ">>>" => some 9
  | "+" | "-" => some 10
  | "*" | "/" | "%" => some 11
  | "**" => some 12
  | _ => none

/-- The level of comparisons, to which `#name in object` belongs. -/
def comparisonLevel : Nat := 8

/-- The level of powers (`**`), which group to the right. -/
def powerLevel : Nat := 12

/-- Whether an operator of some level goes on with operands above a given level. For powers, which
group to the right, an equal level will do. -/
def bindsAbove (level above : Nat) : Bool :=
  if level = powerLevel then above ≤ level else above < level

/-- Makes one token of an operator that opens with a greater-than sign, and takes it
(`wideMark`). -/
def takeWide (operator : String) : Parser Unit := do
  let s ← get
  if s.token.isMark ">" then
    rescan (.mark operator) (s.place.skip (operator.length - 1))
  take

/-- Whether a shape is `a && b` or `a || b`. -/
def Shape.isLogical : Shape → Bool
  | .logical => true
  | _ => false

/-- Whether a shape has an operator before it. -/
def Shape.isUnary : Shape → Bool
  | .unary => true
  | _ => false

/-- Complains about operands that have to be put in parentheses: a logical operator beside `??`, and
a sign before the base of a power. -/
def checkOperands (operator : String) (left right : Shape) (leftOpen rightOpen : Bool) :
    Parser Unit := do
  if operator == "??" then
    complainIf <|
      if right.isLogical then rightOpen else left.isLogical && leftOpen
  if operator == "**" then
    complainIf (leftOpen && left.isUnary)

/-- What is kept (`Shape`) of two operands and the operator between them. -/
def joinedShape (operator : String) : Shape :=
  if operator == "&&" || operator == "||" then .logical else .other

/-- One more operator with its right operand. `leftOpen` says that the left operand does not start
with a parenthesis. -/
def binaryStep (g : Grammar) (above : Nat) (leftOpen : Bool) (left : Shape) :
    Parser (Option Shape) := do
  let operator ← wideMark
  match levelOf operator with
  | none => return none
  | some level =>
    if !bindsAbove level above then return none
    if operator == "in" && !(← context).isIn then return none
    if operator == "as" || operator == "satisfies" then
      if !(← hasTypes) || (← isOnNewLine) then return none
      take
      g.type
      return some (.typed left)
    takeWide operator
    let rightOpen := !(← isAt "(")
    let right ← g.parser (.binary level)
    checkOperands operator left right leftOpen rightOpen
    return some (joinedShape operator)

/-- Operands joined by operators that bind tighter than given. What binds less tight is left for the
caller, whose level is lower. -/
def binaryProduction (g : Grammar) (above : Nat) : Parser Shape := do
  let leftOpen := !(← isAt "(")
  let left ← match (← token).kind with
    | .privateName _ => do
      need (← context).isIn
      advance
      expectWord "in"
      let _ ← g.parser (.binary comparisonLevel)
      pure Shape.other
    | _ => g.parser .unary
  foldWhile (binaryStep g above leftOpen) left

/-! ## Assignments -/

/-- Assignment operators such as `+=`, the plain one apart: these take no pattern on their left. -/
def assignmentOperators : List String :=
  ["+=", "-=", "*=", "/=", "%=", "**=", "<<=", ">>=", ">>>=", "&=", "|=", "^=", "&&=", "||=",
   "??="]

/-- What `yield` hands out, up to the end of the expression. -/
def yieldExpression (g : Grammar) : Parser Unit := do
  complainIf (!(← context).isYield)
  expectWord "yield"
  if !(← isOnNewLine) then
    let isDelegate ← eat "*"
    if isDelegate || !((← isAtEnd) || (← isAtAny [";", closeBrace, ")", "]", ":", ","])) then
      let _ ← within (fun c => { c with isYield := true }) g.assignment

/-- The branches of a conditional expression (`? … : …`) behind its condition, if there are any. -/
def conditionalRest (g : Grammar) (returnType : Bool) (condition : Shape) : Parser Shape := do
  if ← eat "?" then
    let _ ← within (fun c => { c with isIn := true }) (g.parser (.assignment false))
    expect ":"
    let _ ← g.parser (.assignment returnType)
    return .other
  return condition

/-- What stands behind the first operands of an expression: an arrow, an assignment or a condition.
Only here does it show what they were (`Shape.asTarget`). -/
def assignmentRest (g : Grammar) (returnType : Bool) (left : Shape) : Parser Shape := do
  if ← isAt "=>" then
    match left with
    | .name _ =>
      expectArrow
      arrowBody g false returnType
      return .other
    | _ => pure ()
  let operator ← wideMark
  if operator == "=" then
    left.asTarget
    take
    let _ ← g.parser (.assignment returnType)
    return .assignment true
  if assignmentOperators.contains operator then
    left.asSimpleTarget
    takeWide operator
    let _ ← g.parser (.assignment returnType)
    return .assignment false
  conditionalRest g returnType left

/-- An expression without commas: an arrow function, a `yield`, or operands with an assignment
behind them. -/
def assignmentProduction (g : Grammar) (returnType : Bool) : Parser Shape := do
  if ← isAtWordOperator "yield" (← context).isYield then
    yieldExpression g
    return .other
  if ← parenthesizedArrow g returnType then return .other
  if ← isAsyncNameArrow then
    asyncNameArrow g returnType
    return .other
  let left ← g.parser (.binary 0)
  assignmentRest g returnType left

/-- An expression with commas: one or more that `assignment` reads. -/
def expressionProduction (g : Grammar) : Parser Shape :=
  within (fun c => { c with isDecorator := false }) do
    let first ← g.assignment
    foldWhile step first
where
  /-- One more comma and what follows it. -/
  step (_ : Shape) : Parser (Option Shape) := do
    if ← eat "," then
      let _ ← g.assignment
      return some .other
    return none

end DotJs.Source
