import DotJs.Source.Markup
import DotJs.Source.Statement

/-!
# Parsing a source text

The productions together, and the parser of whole programs. `parse` takes a text
in some language to its module nodes, or refuses it.
-/

namespace DotJs.Source

open DotJs.Source.Parser

/-- The production of each construct (`Nonterminal`). Each is given the grammar for what stands
inside, and not this function itself. -/
def productions (g : Grammar) : (n : Nonterminal) → Parser n.Result
  | .expression => expressionProduction g
  | .assignment returnType => assignmentProduction g returnType
  | .binary above => binaryProduction g above
  | .unary => unaryProduction g
  | .primary => primary g
  | .leftHandSide => leftHandSide g
  | .statement place => statementProduction g place
  | .binding => bindingProduction g
  | .type => typeProduction g
  | .typeOperator => typeOperator g
  | .markup inside => markupProduction g inside

/-- The statements of a whole program, up to the end of the source. -/
def wholeProgram (g : Grammar) : Parser Unit :=
  repeatWhile do
    if ← isAtEnd then return false
    g.statement .list
    return true

/-- The cursor before the first token. `bound` is more than there are tokens, and `await` is an
operator at the top of a module. -/
def initialCursor (language : Language) (text : Text) : Cursor :=
  let start := Place.afterHashbang ⟨text, 0⟩
  let (token, place) := start.token (!language.isModule) true
  { language
    bound := text.length + 16
    token
    place
    previousStop := start.offset
    context :=
      { isIn := true
        isYield := false
        isAwait := language.isModule
        isReturn := false
        isDecorator := false
        isAmbient := language.definitions
        isExtends := true }
    found := []
    defaults := []
    exported := []
    flawed := false }

/-- A depth of the grammar that no text of the given length needs more than: between two tokens,
only so many constructs open. -/
def depthFor (length : Nat) : Nat := 16 * length + 64

/-- Whether a parser that went through the whole text found nothing wrong. Without types, each name
can be exported once only. -/
def Cursor.isAccepted (s : Cursor) : Bool :=
  !s.flawed && s.defaults.isEmpty && (s.language.types || allDifferent s.exported)

/-- Whether a text starts and ends with the same quote, that is, is `QuoteStyle.quoted`. -/
def isQuoted (raw : Text) : Bool :=
  2 ≤ raw.length && (raw.head? == some '\'' || raw.head? == some '"')
    && raw.getLast? == raw.head?

/-- Whether a literal has the text that the source has at its place, between quotes: what an edit
relies on (`Literal.rewritten`). -/
def isPlaced (source : Text) (l : Literal) : Bool :=
  match l.raw with
  | some raw => isQuoted raw && source.slice? l.span.start l.span.stop == some raw
  | none => false

/-- Whether the literals of a program are all where they say (`isPlaced`), and apart from each
other. -/
def isWellPlaced (source : Text) (program : Program) : Bool :=
  let literals := Program.literals program
  literals.all (isPlaced source)
    && decide (literals.Pairwise fun a b => a.span.stop ≤ b.span.start ∨ b.span.stop ≤ a.span.start)

/-- The module nodes of a source text, unless it is no program. Literals are recorded where their
tokens were scanned, and `isWellPlaced` looks at them once more before any is handed out: what
rewriting relies on then holds of every program that this function gives, and does not hang on
thousands of lines of grammar. -/
def parse (language : Language) (text : Text) : Option Program :=
  let g := Grammar.unfolded productions (depthFor text.length)
  match wholeProgram g (initialCursor language text) with
  | some ((), s) =>
    let program := s.found.reverse
    if s.isAccepted && isWellPlaced text program then some program else none
  | none => none

end DotJs.Source
