import DotJs.Source.Parser

/-!
# Shapes of expressions

What an expression is can depend on what follows it: `[a, b]` is an array, and
with `=` behind it a pattern. An expression is therefore kept as far as later
tokens can ask about it, and no further. `Shape` is that remainder; all constructs
that nothing asks about are `other`.

`Shape.asTarget` and `Shape.asSimpleTarget` decide whether an expression that was
already read can stand on the left of an assignment. They take back the complaint
about shorthand properties with a default, which mean something only there.
-/

namespace DotJs.Source

mutual

/-- What is kept of an expression: as much as decides whether it can stand on the left of an
assignment, be the name of a module, or be put beside another operator. -/
inductive Shape where
  /-- a name -/
  | name (text : String)
  /-- a string literal -/
  | text (literal : Literal)
  /-- a property of something, without `?.` -/
  | member
  /-- an expression in parentheses -/
  | parenthesized (inner : Shape)
  /-- an array -/
  | array (elements : List ElementShape) (trailing : Bool)
  /-- an object -/
  | object (properties : List PropertyShape) (trailing : Bool)
  /-- an assignment; `plain` for `=` -/
  | assignment (plain : Bool)
  /-- `a && b` or `a || b` -/
  | logical
  /-- an operator before its operand, or `await` -/
  | unary
  /-- an expression with a type or a `!` behind it, or a type in front -/
  | typed (inner : Shape)
  /-- an expression with type arguments behind it, which is no call -/
  | instantiated (inner : Shape)
  /-- `import(…)` -/
  | importCall
  /-- anything else -/
  | other

/-- What is kept of an array element, should the array turn out to be a pattern, as in `[a] = b`. -/
inductive ElementShape where
  /-- nothing between two commas -/
  | hole
  /-- an expression -/
  | plain (shape : Shape)
  /-- `...` and an expression -/
  | spread (shape : Shape)

/-- What is kept of an object property, should the object turn out to be a pattern, as in `({ a } =
b)`. -/
inductive PropertyShape where
  /-- a name alone, possibly with a default; the offset tells it from others -/
  | shorthand (start : Nat)
  /-- a key and a value -/
  | keyed (value : Shape)
  /-- `...` and an expression -/
  | spread (shape : Shape)
  /-- a method, getter or setter -/
  | method

end

namespace Shape

/-- An expression without its parentheses, types and exclamation marks: what is assigned to in `(a
as T)!`. -/
def bare : Shape → Shape
  | .parenthesized s => s.bare
  | .typed s => s.bare
  | s => s

/-- Whether an expression becomes a pattern on the left of an assignment (`Shape.asTarget`). -/
def isPattern : Shape → Bool
  | .array .. | .object .. => true
  | _ => false

/-- Whether an expression is a name or a property. -/
def isReference : Shape → Bool
  | .name _ | .member => true
  | _ => false

/-- Whether an expression can be assigned to as it stands. A pattern in parentheses cannot. -/
def isSimpleTarget : Shape → Bool
  | .name _ | .member => true
  | .parenthesized s =>
    match s with
    | .array .. | .object .. => false
    | s => s.isSimpleTarget
  | .typed s => s.bare.isReference
  | _ => false

/-- Gives up unless an expression can be assigned to as it stands (`isSimpleTarget`). -/
def asSimpleTarget (s : Shape) : Parser Unit := Parser.need s.isSimpleTarget

end Shape

/-- Takes back the complaint about the default of a shorthand property, which is known by its
offset. A default that is never taken back makes the source no program (`Cursor.isAccepted`). -/
def Parser.acceptDefault (start : Nat) : Parser Unit := modify fun s =>
  { s with defaults := s.defaults.filter (· != start) }

mutual

/-- Accepts an expression as the left side of an assignment: something that can be assigned to, or a
pattern of such. -/
def Shape.asTarget : Shape → Parser Unit
  | .array elements trailing => elementsAsTarget elements trailing
  | .object properties trailing => propertiesAsTarget properties trailing
  | .name _ | .member => pure ()
  | s => s.asSimpleTarget

/-- Accepts an expression as a target that can have a default: what was read as an assignment is the
target with it. -/
def Shape.asTargetWithDefault : Shape → Parser Unit
  | .assignment plain => Parser.complainIf (!plain)
  | .array elements trailing => elementsAsTarget elements trailing
  | .object properties trailing => propertiesAsTarget properties trailing
  | .name _ | .member => pure ()
  | s => s.asSimpleTarget

/-- Accepts the elements of an array as the elements of a pattern (`ElementShape`). Only the last
can collect the rest, and no comma may follow it then. -/
def elementsAsTarget : List ElementShape → Bool → Parser Unit
  | [], _ => pure ()
  | .hole :: rest, trailing => elementsAsTarget rest trailing
  | .plain s :: rest, trailing => do
    s.asTargetWithDefault
    elementsAsTarget rest trailing
  | .spread s :: rest, trailing => do
    Parser.need rest.isEmpty
    s.asTarget
    Parser.complainIf trailing

/-- Accepts the properties of an object as the properties of a pattern (`PropertyShape`). A method
is no such property. -/
def propertiesAsTarget : List PropertyShape → Bool → Parser Unit
  | [], _ => pure ()
  | .shorthand start :: rest, trailing => do
    Parser.acceptDefault start
    propertiesAsTarget rest trailing
  | .keyed s :: rest, trailing => do
    s.asTargetWithDefault
    propertiesAsTarget rest trailing
  | .spread s :: rest, trailing => do
    Parser.need rest.isEmpty
    Parser.complainIf s.isPattern
    s.asTarget
    Parser.complainIf trailing
  | .method :: _, _ => Parser.giveUp

end

end DotJs.Source
