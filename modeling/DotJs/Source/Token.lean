import DotJs.Text

/-!
# Tokens

The smallest pieces of a source text that have a meaning of their own. Keywords
are no kind of their own: most of them are names in one place and keywords in
another, so that a token only says which word it is, and whether the word was
written with escapes, which no keyword may be.

* `Place` is a position in the source: what follows it, and its byte offset.
* `Token` is a token with its two places and what is known about its surroundings.
-/

namespace DotJs.Source

/-- A position in a source text. The text that follows is kept beside its offset, so that scanning
goes on from there without cutting the source again. -/
structure Place where
  /-- what follows -/
  rest : Text
  /-- the number of bytes before it -/
  offset : Nat
  deriving DecidableEq, Repr

/-- The place `n` characters further on, which is as many bytes as these have. -/
def Place.skip (p : Place) : Nat → Place
  | 0 => p
  | n + 1 =>
    match p.rest with
    | [] => p
    | c :: rest => Place.skip ⟨rest, p.offset + c.utf8Size⟩ n

/-- The brace that opens, as the text of a punctuator. -/
def openBrace : String := "\x7b"

/-- The brace that closes, as the text of a punctuator. -/
def closeBrace : String := "\x7d"

/-- What a token is. A string literal has its value and its text here, since it is read when it is
scanned and an edit needs both. -/
inductive Kind where
  /-- the end of the source -/
  | endOfSource
  /-- something that is no token -/
  | invalid
  /-- a name or a keyword -/
  | word (name : String)
  /-- a name behind `#` -/
  | privateName (name : String)
  /-- a number -/
  | number
  /-- a string literal; `whole` unless its value has half a surrogate pair -/
  | string (value raw : Text) (whole : Bool)
  /-- a template, or the part of one that opens it, goes on with it or closes it;
  `closed` unless an expression follows, `proper` unless an escape has no meaning -/
  | template (closed proper : Bool)
  /-- a regular expression -/
  | regex
  /-- text between markup tags -/
  | markupText
  /-- a punctuator -/
  | mark (text : String)
  deriving DecidableEq, Repr

/-- A token with its place. That a line break stands before it is known here because it can stand
for a semicolon, and `escaped` because no keyword may be written so. -/
structure Token where
  /-- what it is -/
  kind : Kind
  /-- the byte offset at which it starts -/
  start : Nat
  /-- the byte offset behind it -/
  stop : Nat
  /-- whether a line break stands before it -/
  onNewLine : Bool
  /-- whether it is a word written with escapes -/
  escaped : Bool
  deriving DecidableEq, Repr

namespace Token

/-- The name of a word, whether it is a name or a keyword. -/
def word? (t : Token) : Option String :=
  match t.kind with
  | .word name => some name
  | _ => none

/-- Whether a token is a given punctuator, that is, of the `Kind` `mark` with that text. -/
def isMark (t : Token) (text : String) : Bool := t.kind == .mark text

/-- Whether a token is a given word, with escapes in it or not: `Parser.take` complains about
these. -/
def isWord (t : Token) (name : String) : Bool := t.kind == .word name

/-- Whether a token is a string literal, which has a `Kind` of its own. -/
def isString (t : Token) : Bool :=
  match t.kind with
  | .string .. => true
  | _ => false

end Token

/-! ## Words -/

/-- Words that are never names, such as `class`. -/
def reservedWords : List String :=
  ["break", "case", "catch", "class", "const", "continue", "debugger", "default", "delete", "do",
   "else", "enum", "export", "extends", "false", "finally", "for", "function", "if", "import",
   "in", "instanceof", "new", "null", "return", "super", "switch", "this", "throw", "true", "try",
   "typeof", "var", "void", "while", "with"]

/-- Whether a word can be the name of a variable, `await` and `yield` included: where these two are
operators, `checkName` complains. -/
def isBindingWord (name : String) : Bool := !reservedWords.contains name

/-- Words that are keywords in some place. A keyword must not be written with escapes
(`Parser.take`). -/
def keywords : List String :=
  reservedWords ++
  ["await", "yield", "let", "static", "implements", "interface", "package", "private", "protected",
   "public", "async", "from", "get", "meta", "of", "set", "target", "accessor", "abstract", "as",
   "asserts", "assert", "any", "bigint", "boolean", "constructor", "declare", "defer", "infer",
   "intrinsic", "is", "keyof", "module", "namespace", "never", "out", "readonly", "require",
   "number", "object", "satisfies", "source", "string", "symbol", "type", "undefined", "unique",
   "using", "unknown", "global", "override"]

/-- Words that can stand before a declaration or a member to change its meaning. Each of them is
also a name, and `isModifierHere` tells which it is. -/
def modifierWords : List String :=
  ["abstract", "accessor", "async", "const", "declare", "default", "export", "in", "out", "public",
   "private", "protected", "readonly", "static", "override"]

end DotJs.Source
