import DotJs.Source.ModuleItem

/-!
# Statements

Statements and the constructs they consist of. A declaration that is scoped to its
block must not stand alone as a part of another statement, where it would have no
block; functions are let through there, unless they are asynchronous or generators.
-/

namespace DotJs.Source

open DotJs.Source.Parser

/-- Complains about a declaration that does not stand in a list of statements. -/
def needsList (place : StatementPlace) : Parser Unit := complainIf (place != .list)

/-- An expression in parentheses behind a keyword, such as `while`. -/
def condition (g : Grammar) : Parser Unit := do
  expect "("
  let _ ← within (fun c => { c with isIn := true }) g.expression
  expect ")"

/-! ## Loops -/

/-- A `for` loop from the semicolon behind its first expression on. -/
def plainLoopRest (g : Grammar) (isAwait : Bool) : Parser Unit := do
  expect ";"
  if !(← isAtAny [";", ")"]) then
    let _ ← within (fun c => { c with isIn := true }) g.expression
  expect ";"
  if !(← isAt ")") then
    let _ ← within (fun c => { c with isIn := true }) g.expression
  expect ")"
  complainIf isAwait
  g.statement .part

/-- A loop over properties or elements, from `in` or `of` on. -/
def iterationRest (g : Grammar) (isAwait : Bool) : Parser Unit := do
  let overProperties ← isAtWord "in"
  take
  if overProperties then
    let _ ← g.expression
  else
    let _ ← g.assignment
  expect ")"
  complainIf (isAwait && overProperties)
  g.statement .part

/-- Whether a loop over properties or elements goes on here, with `in` or `of`. -/
def isAtIteration : Parser Bool := isAtAnyWord ["in", "of"]

/-- A loop whose head declares variables. They need no values where `in` or `of` follows. -/
def loopWithVariables (g : Grammar) (isAwait : Bool) (head : Parser Variables) :
    Parser Unit := do
  let declared ← within (fun c => { c with isIn := false }) head
  if ← isAtIteration then
    iterationRest g isAwait
  else
    complainIf declared.lacksValue
    plainLoopRest g isAwait

/-- Whether variables are declared here. The word `let` can also be a name. -/
def isAtVariables : Parser Bool := do
  if ← isAtAnyWord ["var", "const"] then return true
  if !(← isAtWord "let") then return false
  peek false do
    advance
    if ← isAtWord "in" then return false
    return (← isAtAny [openBrace, "["]) || (← token).word?.isSome

/-- A loop whose head starts with an expression, which can be what is assigned to
(`Shape.asTarget`). -/
def loopWithExpression (g : Grammar) (isAwait : Bool) : Parser Unit := do
  let isLet ← isAtWord "let"
  let isAsync := (← isAtWord "async") && !(← token).escaped
  let shape ← within (fun c => { c with isIn := false }) g.expression
  if ← isAtIteration then
    if ← isAtWord "of" then
      complainIf isLet
      match shape with
      | .name _ => complainIf (isAsync && !isAwait)
      | _ => pure ()
    shape.asTarget
    iterationRest g isAwait
  else
    plainLoopRest g isAwait

/-- A loop from `for` on. What kind it is shows only behind the first part of its head. -/
def forStatement (g : Grammar) : Parser Unit := do
  expectWord "for"
  let isAwait ← isAtWord "await"
  if isAwait then
    complainIf (!(← context).isAwait)
    take
  expect "("
  if ← isAt ";" then
    plainLoopRest g isAwait
  else if ← isAtVariables then
    let isConstant ← isAtWord "const"
    take
    loopWithVariables g isAwait (variableList g isConstant)
  else if ← isAtUsing true then
    loopWithVariables g isAwait (usingList g)
  else
    loopWithExpression g isAwait

/-! ## Jumps -/

/-- `break` or `continue`, with or without a label. Whether there is such a label is not asked. -/
def jumpStatement : Parser Unit := do
  take
  if !(← canEndStatement) then
    need (← isAtReference)
    advance
  semicolon

/-- `return`, with or without a value. -/
def returnStatement (g : Grammar) : Parser Unit := do
  expectWord "return"
  if !(← canEndStatement) then
    let _ ← within (fun c => { c with isIn := true }) g.expression
  semicolon
  complainIf (!(← context).isReturn)

/-- `throw`, with a value on the same line. -/
def throwStatement (g : Grammar) : Parser Unit := do
  expectWord "throw"
  complainIf (← isOnNewLine)
  let _ ← within (fun c => { c with isIn := true }) g.expression
  semicolon

/-! ## Statements with parts -/

/-- One of two statements (`if`, `else`). -/
def ifStatement (g : Grammar) : Parser Unit := do
  expectWord "if"
  condition g
  g.statement .part
  if ← eatWord "else" then g.statement .part

/-- A loop with its condition behind it (`do`, `while`). -/
def doStatement (g : Grammar) : Parser Unit := do
  expectWord "do"
  g.statement .part
  expectWord "while"
  condition g
  let _ ← eat ";"

/-- A statement behind an expression in parentheses: `while` and `with`. -/
def guardedStatement (g : Grammar) : Parser Unit := do
  take
  condition g
  g.statement .part

/-- A choice among cases (`switch`). -/
def switchStatement (g : Grammar) : Parser Unit := do
  expectWord "switch"
  condition g
  expect openBrace
  repeatWhile do
    if ← isAt closeBrace then return false
    if ← eatWord "default" then
      pure ()
    else
      expectWord "case"
      let _ ← within (fun c => { c with isIn := true }) g.expression
    expect ":"
    repeatWhile do
      if (← isAt closeBrace) || (← isAtEnd) || (← isAtAnyWord ["case", "default"]) then return false
      g.statement .list
      return true
    return true
  expect closeBrace

/-- A block (`try`) whose failures are caught, or behind which something is done in any case. -/
def tryStatement (g : Grammar) : Parser Unit := do
  expectWord "try"
  block g
  let isCaught ← eatWord "catch"
  if isCaught then
    if ← eat "(" then
      let _ ← bindingElement g
      expect ")"
    block g
  let isFinal ← eatWord "finally"
  if isFinal then block g
  complainIf (!isCaught && !isFinal)

/-! ## Declarations and expressions -/

/-- A function as a statement. -/
def functionStatement (g : Grammar) (place : StatementPlace) : Parser Unit := do
  let isAsync ← eatWord "async"
  let f ← functionDeclaration g isAsync false
  if f.isSpecial then needsList place

/-- Resources as a statement (`using`, `await using`). -/
def usingStatement (g : Grammar) (place : StatementPlace) : Parser Unit := do
  let list ← usingList g
  semicolon
  complainIf list.lacksValue
  needsList place

/-- An expression as a statement, or a label and its statement: a name is a label if a colon
follows, as in `a: b()`. -/
def expressionStatement (g : Grammar) : Parser Unit := do
  let isLabel ← match ← g.expression with
    | .name _ => eat ":"
    | _ => pure false
  if isLabel then g.statement .part else semicolon

/-- A statement that starts with `let`, which can be a name; the next token decides. -/
def letStatement (g : Grammar) (place : StatementPlace) : Parser Unit := do
  let operators := binaryOperators ++ assignmentOperators ++ ["=", ".", "("]
  let asName ← peek false do
    advance
    let next := (← token)
    match next.kind with
    | .mark m => return operators.contains m || m == ";" || (place != .list && m != "[")
    | .word w => return ["in", "instanceof"].contains w || place != .list
    | _ => return place != .list
  if asName then
    expressionStatement g
  else
    let _ ← variableStatement g

/-- A statement behind decorators: a class or its export. -/
def decoratedStatement (g : Grammar) (place : StatementPlace) : Parser Unit := do
  decorators g
  if ← isAtWord "export" then
    exportItem g true
  else
    allowModifiers ["declare", "abstract"] (← modifiers false false)
    let _ ← classRest g false
    needsList place

/-- A class as a statement. -/
def classStatement (g : Grammar) (place : StatementPlace) : Parser Unit := do
  let _ ← classRest g false
  needsList place

/-- A statement that starts with `const`: variables, or an enumeration. -/
def constStatement (g : Grammar) (place : StatementPlace) : Parser Unit := do
  if (← hasTypes) && (← peek false (do advance; isAtWord "enum")) then
    take
    enumDeclaration g
  else
    let _ ← variableStatement g
    needsList place

/-- An import as a statement, or an expression that starts with `import`. -/
def importStatement (g : Grammar) : Parser Unit := do
  if ← peek false (do advance; isAtAny [".", "("]) then
    expressionStatement g
  else
    let start := (← token).start
    expectWord "import"
    let _ ← importRest start

/-- A statement that starts with a word of no special meaning: a declaration of a language with
types, or an expression. -/
def otherStatement (g : Grammar) : Parser Unit := do
  if (← hasTypes) && (← isAtAnyWord declarationWords) && (← isDeclarationStart) then
    let _ ← declaration g
  else
    expressionStatement g
where
  /-- Words that declarations can start with. -/
  declarationWords : List String :=
    ["interface", "type", "module", "namespace", "declare", "enum", "private", "protected",
     "public", "abstract", "accessor", "static", "readonly", "global", "async"]

/-- A statement, by its first token; `otherStatement` is what is left. -/
def statementProduction (g : Grammar) (place : StatementPlace) : Parser Unit := do
  if ← isAt openBrace then return ← block g
  if ← isAt ";" then return ← take
  if ← isAt "@" then return ← decoratedStatement g place
  if ← isAtFunction then return ← functionStatement g place
  if ← isAtUsing false then return ← usingStatement g place
  match (← token).word? with
  | some "if" => ifStatement g
  | some "do" => doStatement g
  | some "while" | some "with" => guardedStatement g
  | some "for" => forStatement g
  | some "continue" | some "break" => jumpStatement
  | some "return" => returnStatement g
  | some "throw" => throwStatement g
  | some "switch" => switchStatement g
  | some "try" => tryStatement g
  | some "debugger" =>
    take
    semicolon
  | some "class" => classStatement g place
  | some "export" => exportItem g false
  | some "import" => importStatement g
  | some "var" =>
    let _ ← variableStatement g
  | some "const" => constStatement g place
  | some "let" =>
    if (← token).escaped then expressionStatement g else letStatement g place
  | _ => otherStatement g

end DotJs.Source
