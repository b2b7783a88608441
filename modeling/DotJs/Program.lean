import DotJs.Verdict

/-!
# Programs

Of a program, rewriting looks only at the places that name another module. A
`Node` is one of them, with the nodes inside it: an `import` in the argument of
another, or in the body of an exported function. All other constructs are left
out, so that a program is the forest of its module nodes.

A literal keeps its value, its place and its text. The text is missing for a
literal that was not read from a source; its place then means what it says only
by luck.
-/

namespace DotJs

/-- A range of bytes, which need not be a sensible one: a tree that was built by hand can have any
two numbers here, and `splicedFrom` is what refuses them. -/
structure Span where
  /-- the offset of the first byte -/
  start : Nat
  /-- the offset behind the last byte -/
  stop : Nat
  deriving DecidableEq, Repr

/-- A string literal that names a module. `value` is what rules judge, `raw` what edits are made of,
and `span` where they go; that the three belong together holds of a tree that was read from a text,
and is not asked of others. -/
structure Literal where
  /-- the value, with all escapes resolved -/
  value : Text
  /-- the place in the source -/
  span : Span
  /-- the text with its quotes, when known -/
  raw : Option Text
  deriving DecidableEq, Repr

/-- How a module node names its module. Only a `literal` can be rewritten; the other two are apart
because their verdicts are (`Verdict.noSpecifier` and `Verdict.notLiteral`). -/
inductive Specifier where
  /-- not at all -/
  | absent
  /-- by an expression other than a string literal -/
  | computed
  /-- by a string literal -/
  | literal (literal : Literal)
  deriving DecidableEq, Repr

/-- The literal of a specifier that is one, or `none`: what a walk over all literals of a program
collects (`Program.literals`). -/
def Specifier.literal? : Specifier → Option Literal
  | .literal l => some l
  | _ => none

/-- A place of a program that can name another module: its kind, the offset at which it starts, its
`Specifier` and the module nodes inside it, in order. It is a tree and not a list of places, since
rewriting does not look inside a node that it rewrites. -/
inductive Node where
  /-- the only way to build one -/
  | mk (kind : ModuleKind) (start : Nat) (specifier : Specifier) (inside : List Node)

namespace Node

/-- What kind of place a node is. The kind decides whether `dynamicImports` has a say about it. -/
def kind : Node → ModuleKind
  | mk k _ _ _ => k

/-- The offset of the first byte of a `Node`, by which an explanation tells two nodes with the same
specifier apart. -/
def start : Node → Nat
  | mk _ s _ _ => s

/-- How a node names its module: the part of it that `Rules.classify` judges and rewriting
replaces. -/
def specifier : Node → Specifier
  | mk _ _ s _ => s

/-- The module nodes inside a node, in the order of the source. Imports stand inside others as
arguments of `import(…)`, or in the body of what is exported. -/
def inside : Node → List Node
  | mk _ _ _ ns => ns

end Node

/-- A program: its outermost module nodes, in the order of the source. What stands between them is
not part of it, and is kept by `spliced`. -/
abbrev Program := List Node

mutual

/-- A node and all nodes `inside` it, the outer ones first, so that a node comes before those that
its being rewritten keeps as they are. -/
def Node.all : Node → List Node
  | .mk k s sp ns => .mk k s sp ns :: Program.nodes ns

/-- All module nodes of a program at any depth, each list in the order of `Node.all`. An explanation
goes through them to find those with a given specifier. -/
def Program.nodes : List Node → List Node
  | [] => []
  | n :: rest => n.all ++ Program.nodes rest

end

/-- The literals of a program, in the order of `Program.nodes`: the ones that a rewriting could ever
be about. -/
def Program.literals (program : Program) : List Literal :=
  (Program.nodes program).filterMap fun n => n.specifier.literal?

end DotJs
