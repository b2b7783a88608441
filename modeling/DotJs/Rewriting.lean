import DotJs.Edit
import DotJs.Position
import DotJs.Rules
import DotJs.Sorting
import DotJs.Source.Parse

/-!
# Rewriting

A program is rewritten from the outside in. A node whose verdict asks for it gets a
new literal, and nothing inside it is looked at; any other node is kept, and the
nodes inside it are rewritten. Each new literal leaves an edit behind.

* `Program.rewritten` rewrites a program and lists the edits in source order;
* `rewriteSource` reads a text, rewrites its program and splices the edits in.

A literal is extended at its text, which is the one it was read from or else the text
of the source at its place. There is no result when such a text ends inside a
character where its closing quote should be. A text that was read as a program holds
no such literal.
-/

namespace DotJs

/-- The text of a literal between quotes, when there is one: its own (`raw`), or what stands in the
source at its place. Only a text of two bytes or more that starts with a quote is taken; a literal
without such a text is written from its value. -/
def Literal.text? (source : Text) (l : Literal) : Option Text :=
  let text := match l.raw with
    | some raw => some raw
    | none => source.slice? l.span.start l.span.stop
  text.filter fun t => 2 ≤ t.size && (t.head? == some '\'' || t.head? == some '"')

/-- A literal with its extension, and the edit that writes it. Both are made here from the same
`replacement`, so that the tree and the text cannot come apart. There is no result where
`StringLiteral.extended` has none. -/
def Literal.rewritten (source : Text) (kind : ModuleKind) (verdict : Verdict) (l : Literal) :
    Option (Literal × Edit) :=
  let text := l.text? source
  let quote := (text.map QuoteStyle.ofRaw).getD .double
  match StringLiteral.extended text l.value quote with
  | none => none
  | some replacement =>
    let position := source.position l.span.start
    some
      (⟨l.value ++ dotJs, l.span, some replacement⟩,
        { kind, verdict, quote
          span := l.span
          line := position.line
          column := position.column
          original := text.getD l.value
          replacement })

mutual

/-- A node with the nodes inside it rewritten, and the edits. A node whose own literal is
`rewritten` is not entered: of nested nodes only the outermost that qualifies gets an edit, and
those inside it keep their literals. -/
def Node.rewritten (rules : Rules) (source : Text) : Node → Option (Node × List Edit)
  | .mk kind start (.literal l) inside =>
    let verdict := rules.classify (.mk kind start (.literal l) inside)
    if verdict.rewrites then
      match l.rewritten source kind verdict with
      | none => none
      | some (l, edit) => some (.mk kind start (.literal l) inside, [edit])
    else
      match Program.rewrittenNodes rules source inside with
      | none => none
      | some (inside, edits) => some (.mk kind start (.literal l) inside, edits)
  | .mk kind start specifier inside =>
    match Program.rewrittenNodes rules source inside with
    | none => none
    | some (inside, edits) => some (.mk kind start specifier inside, edits)

/-- Nodes rewritten one after the other by `Node.rewritten`, and their edits in the order in which
they are met. One node that cannot be rewritten is enough for there to be no result. -/
def Program.rewrittenNodes (rules : Rules) (source : Text) :
    List Node → Option (List Node × List Edit)
  | [] => some ([], [])
  | n :: rest =>
    match n.rewritten rules source with
    | none => none
    | some (n, edits) =>
      match Program.rewrittenNodes rules source rest with
      | none => none
      | some (rest, edits') => some (n :: rest, edits ++ edits')

end

/-- The order of edits in reports. It looks at where spans start and at nothing else, which is all
that `spliced` needs. -/
def Edit.startsBefore (a b : Edit) : Bool := a.span.start ≤ b.span.start

/-- A program with every qualifying specifier rewritten, and the edits in the order of their places.
Nodes of a tree can come in any order, and `spliced` passes over an edit that lies behind its
cursor, so that the edits are sorted here. -/
def Program.rewritten (rules : Rules) (source : Text) (program : Program) :
    Option (Program × List Edit) :=
  (Program.rewrittenNodes rules source program).map fun (program, edits) =>
    (program, stableSort Edit.startsBefore edits)

/-- The result of rewriting a source text. The rewritten tree is left behind: a run keeps only the
text that goes into the file and the `edits` that a report lists. -/
structure Output where
  /-- the new text -/
  code : Text
  /-- the edits that lead to it -/
  edits : List Edit
  deriving DecidableEq, Repr

/-- Whether anything was rewritten. It asks for `edits` and not for a changed text, which would be
the same, since an edit never leaves its literal as it was. -/
def Output.isChanged (o : Output) : Bool := !o.edits.isEmpty

/-- Rewrites a source text in a given language: it is read (`Source.parse`), its program rewritten
(`Program.rewritten`), and the edits carried out on the text (`spliced`). There is no result when
the text is no program. -/
def rewriteSource (rules : Rules) (language : Language) (source : Text) : Option Output := do
  let program ← Source.parse language source
  let (_, edits) ← program.rewritten rules source
  let code ← spliced source edits
  return ⟨code, edits⟩

end DotJs
