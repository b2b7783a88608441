import DotJs.Source.Shape

/-!
# The grammar as a value

Constructs contain each other, without any order between them. The productions
are nevertheless written one by one, in several modules: each gets the whole
grammar as an argument and asks it for the constructs that may stand inside its
own. `Grammar.unfolded` ties the knot. It unfolds the productions to a given depth
and gives up below, so that the recursion is on a number, and the depth that a
source can need is bounded by its length.
-/

namespace DotJs.Source

/-- Where a statement stands, which decides whether declarations may (`needsList`). -/
inductive StatementPlace where
  /-- in a list of statements -/
  | list
  /-- as a part of another statement, or behind a label -/
  | part
  deriving DecidableEq, Repr

/-- What is kept of a binding: what an exported declaration needs to know. -/
structure Bound where
  /-- the names that it binds -/
  names : List String
  /-- whether it is a name and no pattern -/
  isName : Bool
  deriving DecidableEq, Repr

/-- The constructs that others ask for. Only those are here that some production further down
contains; all others are plain definitions in the module of their kind. -/
inductive Nonterminal where
  /-- expressions with commas -/
  | expression
  /-- expressions without commas; an arrow function among them can have a return
  type, or only one that is followed by a colon -/
  | assignment (returnType : Bool)
  /-- operands joined by operators that bind tighter than given -/
  | binary (above : Nat)
  /-- operands with operators before or behind them -/
  | unary
  /-- names, literals, and what stands in brackets -/
  | primary
  /-- names, literals, calls, properties -/
  | leftHandSide
  /-- statements -/
  | statement (place : StatementPlace)
  /-- what a variable is bound by -/
  | binding
  /-- types -/
  | type
  /-- types with operators of words before them -/
  | typeOperator
  /-- markup elements, from their opening bracket on; inside another one or not -/
  | markup (inside : Bool)
  deriving DecidableEq, Repr

/-- What is kept of a construct: a `Shape` of expressions, the names of bindings, and nothing of all
else. -/
@[reducible] def Nonterminal.Result : Nonterminal → Type
  | .expression | .assignment _ | .binary _ | .unary | .primary | .leftHandSide => Shape
  | .binding => Bound
  | .statement _ | .type | .typeOperator | .markup _ => Unit

/-- A parser for every construct. A production takes the grammar as an argument instead of calling
others by name, so that no definition is recursive before `Grammar.unfolded`. -/
structure Grammar where
  /-- the parser for a construct -/
  parser : (n : Nonterminal) → Parser n.Result

namespace Grammar

/-- Expressions with commas, as in parentheses and in statements. -/
def expression (g : Grammar) : Parser Shape := g.parser .expression

/-- Expressions without commas, as elements and arguments are. -/
def assignment (g : Grammar) : Parser Shape := g.parser (.assignment true)

/-- Expressions without commas, in which `in` is an operator whatever stands around them. -/
def argument (g : Grammar) : Parser Shape :=
  Parser.within (fun c => { c with isIn := true }) g.assignment

/-- Statements, at a given place. -/
def statement (g : Grammar) (place : StatementPlace) : Parser Unit := g.parser (.statement place)

/-- What a variable is bound by. -/
def binding (g : Grammar) : Parser Bound := g.parser .binding

/-- Types, of which nothing is kept. -/
def type (g : Grammar) : Parser Unit := g.parser .type

/-- The grammar of given productions, unfolded to a depth. Below it every parser gives up;
`depthFor` is a depth that no source goes beyond. -/
def unfolded (productions : Grammar → (n : Nonterminal) → Parser n.Result) : Nat → Grammar
  | 0 => ⟨fun _ => Parser.giveUp⟩
  | depth + 1 => ⟨fun n => productions (unfolded productions depth) n⟩

end Grammar

end DotJs.Source
