import DotJs.Text

/-!
# String literals

A string literal of a program is a text between two equal quotes. Reading it and
adding to it are kept side by side here:

* `StringLiteral.readBody` reads what stands behind the opening quote, one
  character at a time: `Progress` is where the reader stands, in the middle of
  an escape or between two of them. It serves the tokenizer and is the reference
  for what a literal means.
* `StringLiteral.read` reads a whole literal to its value.
* `StringLiteral.extended` writes the literal of a value with `.js` behind it. It
  works on the text between the quotes when that is known, so that its escapes
  stay as they are, and on the value otherwise.

Escapes can name halves of a surrogate pair. Two escapes of four digits that name
a whole pair stand for its character. A half that is left alone has no character
of its own: the whole value is then written with U+FFFD as a marker, followed by
the four digits of the half.
-/

namespace DotJs

/-- The two quotes of string literals, `'` and `"`. Backquotes are none: a template names no
module. -/
inductive QuoteStyle where
  /-- an apostrophe -/
  | single
  /-- a double quote -/
  | double
  deriving DecidableEq, Repr

namespace QuoteStyle

/-- The quote itself, which opens and closes a literal. -/
def char : QuoteStyle → Char
  | .single => '\''
  | .double => '"'

/-- The style of a literal's text: double unless it opens with an apostrophe. It is only asked of
texts that open with one of the two (`Literal.text?`). -/
def ofRaw : Text → QuoteStyle
  | '\'' :: _ => .single
  | _ => .double

/-- The name of a style in reports: the value of the member `quote` of an edit. -/
def name : QuoteStyle → Text
  | .single => "single".toList
  | .double => "double".toList

end QuoteStyle

/-- The extension `.js` that specifiers are given. No character of it is special in a literal, so
that it can be put behind any body as it stands. -/
def dotJs : Text := ['.', 'j', 's']

namespace StringLiteral

/-! ## Elements of a value -/

/-- What one character or escape of a literal stands for. A value is made of code units, and escapes
can name one half of a pair; keeping halves as elements until the whole literal is read is what lets
two of them meet (`joinPairs`). -/
inductive Element where
  /-- a character -/
  | char (c : Char)
  /-- half of a surrogate pair; only one from an escape of four digits can be
  joined with its neighbour -/
  | surrogate (unit : Nat) (joinable : Bool)
  deriving DecidableEq, Repr

/-- The element with a given number, if there is one: half of a surrogate pair between `0xD800` and
`0xDFFF`, and a character otherwise. -/
def Element.ofNat? (n : Nat) (joinable : Bool) : Option Element :=
  if n < 0xD800 ∨ (0xE000 ≤ n ∧ n < 0x110000) then some (.char (Char.ofNat n))
  else if n < 0xE000 then some (.surrogate n joinable)
  else none

/-- Joins the pairs of halves that four-digit escapes name. A half written as `\u{…}` is not
`joinable`, and stays alone even beside its other half. -/
def joinPairs : List Element → List Element
  | .surrogate high true :: rest =>
    if high < 0xDC00 then
      match joinPairs rest with
      | .surrogate low true :: rest' =>
        if 0xDC00 ≤ low then
          .char (Char.ofNat (0x10000 + (high - 0xD800) * 0x400 + (low - 0xDC00))) :: rest'
        else
          .surrogate high true :: .surrogate low true :: rest'
      | rest' => .surrogate high true :: rest'
    else
      .surrogate high true :: joinPairs rest
  | e :: rest => e :: joinPairs rest
  | [] => []

/-- The marker that stands before the digits of a lone half. It is a character that can also stand
for itself, and is then given digits too (`markedText`). -/
def loneMarker : Char := '\uFFFD'

/-- Four hexadecimal digits, lower case, as they stand behind a `loneMarker`. -/
def fourDigits (n : Nat) : Text :=
  [n / 0x1000 % 16, n / 0x100 % 16, n / 0x10 % 16, n % 16].map Nat.digitChar

/-- The text of elements among which a half stands alone (`surrogate`): each half as a marker with
its digits, and a marker that stands for itself with its own digits, so that the two can be told
apart. -/
def markedText : List Element → Text
  | [] => []
  | .char c :: rest =>
    (if c = loneMarker then c :: fourDigits c.toNat else [c]) ++ markedText rest
  | .surrogate unit _ :: rest => loneMarker :: fourDigits unit ++ markedText rest

/-- The characters (`char`) of elements, if no half stands alone: the text that a literal spells,
for all literals but the odd one. -/
def plainText? : List Element → Option Text
  | [] => some []
  | .char c :: rest => (plainText? rest).map (c :: ·)
  | .surrogate _ _ :: _ => none

/-- The value that the elements of a literal have together: their characters, or a `markedText` if
some half stays alone when pairs are joined. -/
def value (elements : List Element) : Text :=
  let joined := joinPairs elements
  match plainText? joined with
  | some text => text
  | none => markedText joined

/-! ## Reading -/

/-- Where the reader of a body (`readBody`) stands. A literal is read one character at a time, and
what is known in the middle of an escape is this much; recursion is then on the text alone, and each
kind of escape is a state that can be told by itself. -/
inductive Progress where
  /-- between two elements -/
  | plain
  /-- behind a backslash -/
  | escape
  /-- behind a backslash and a carriage return, to which a line feed belongs -/
  | continued
  /-- in an octal escape that can take `more` further digits -/
  | octal (number more : Nat)
  /-- in an escape of fixed length that lacks `missing` digits -/
  | hex (number missing : Nat)
  /-- behind `\u` -/
  | unicode
  /-- in `\u{…`; `started` once a digit was read -/
  | braced (number : Nat) (started : Bool)
  deriving DecidableEq, Repr

/-- The character of an escape of one letter, such as `\n`. A letter without a meaning of its own
stands for itself. -/
def simpleEscape (c : Char) : Char :=
  match c with
  | 'n' => '\n'
  | 't' => '\t'
  | 'r' => '\r'
  | 'b' => '\x08'
  | 'f' => '\x0c'
  | 'v' => '\x0b'
  | _ => c

/-- One character behind a backslash. Line ends behind one are left out of the value; `8` and `9`
are no octal digits, and stand for themselves. -/
def Progress.afterBackslash (c : Char) : Progress × List Element :=
  if c = '\n' ∨ c = '\u2028' ∨ c = '\u2029' then (.plain, [])
  else if c = '\r' then (.continued, [])
  else if c = 'x' then (.hex 0 2, [])
  else if c = 'u' then (.unicode, [])
  else
    match octalDigit? c with
    | some d => (.octal d (if d ≤ 3 then 2 else 1), [])
    | none => (.plain, [.char (simpleEscape c)])

/-- One character between two elements, which is not the closing quote. A line feed or a carriage
return breaks the literal; the line and paragraph separators `U+2028` and `U+2029` do not. -/
def Progress.afterPlain (c : Char) : Option (Progress × List Element) :=
  if c = '\\' then some (.escape, [])
  else if c = '\n' ∨ c = '\r' then none
  else some (.plain, [.char c])

/-- One more digit of an escape of fixed length, `\x` or `\u`. The last one completes an element,
which is joinable: with two digits it is a character at any rate. -/
def Progress.afterHex (number missing : Nat) (c : Char) : Option (Progress × List Element) :=
  match hexDigit? c with
  | none => none
  | some d =>
    let number := number * 16 + d
    if missing ≤ 1 then
      (Element.ofNat? number true).map fun e => (.plain, [e])
    else
      some (.hex number (missing - 1), [])

/-- One more character of `\u{…}`. There has to be a digit at least, and the number may not come to
be one that no character has, however many zeros it starts with. -/
def Progress.afterBraced (number : Nat) (started : Bool) (c : Char) :
    Option (Progress × List Element) :=
  if c = '}' then
    if started then (Element.ofNat? number false).map fun e => (.plain, [e]) else none
  else
    match hexDigit? c with
    | none => none
    | some d =>
      let number := number * 16 + d
      if number < 0x110000 then some (.braced number true, []) else none

/-- What the next character of a body, the closing quote apart, does. Nothing is the result when it
breaks the literal. An octal escape ends when it has all its digits, or at a character that cannot
belong to it, which is then read as one between two elements. -/
def Progress.step (c : Char) : Progress → Option (Progress × List Element)
  | .plain => afterPlain c
  | .escape => some (afterBackslash c)
  | .continued => if c = '\n' then some (.plain, []) else afterPlain c
  | .octal number more =>
    match octalDigit? c with
    | some d =>
      if more ≤ 1 then
        some (.plain, [.char (Char.ofNat (number * 8 + d))])
      else
        some (.octal (number * 8 + d) (more - 1), [])
    | none => (afterPlain c).map fun (p, es) => (p, .char (Char.ofNat number) :: es)
  | .hex number missing => afterHex number missing c
  | .unicode => if c = '{' then some (.braced 0 false, []) else afterHex 0 4 c
  | .braced number started => afterBraced number started c

/-- What is still owed when the closing quote comes, unless the reader stands in the middle of an
escape. An octal escape is the only one whose end is not known before. -/
def Progress.close? : Progress → Option (List Element)
  | .plain | .continued => some []
  | .octal number _ => some [.char (Char.ofNat number)]
  | .escape | .hex _ _ | .unicode | .braced _ _ => none

/-- Reads a body up to its closing quote: its elements, its length in characters with the quote, and
what follows. The tokenizer needs the length, and a proof that a text is one literal needs that
nothing follows. -/
def readBody (quote : Char) : Progress → Text → Option (List Element × Nat × Text)
  | _, [] => none
  | p, c :: rest =>
    if c = quote ∧ p ≠ .escape then
      p.close?.map fun es => (es, 1, rest)
    else
      match p.step c with
      | none => none
      | some (p', es) => (readBody quote p' rest).map fun (es', n, r) => (es ++ es', n + 1, r)

/-- Reads a text that is exactly one string literal to its `value`. It is the reference for what a
literal means: what an edit writes has to be read back by it. -/
def read : Text → Option Text
  | [] => none
  | c :: body =>
    if c = '\'' ∨ c = '"' then
      match readBody c .plain body with
      | some (es, _, []) => some (value es)
      | _ => none
    else
      none

/-! ## Adding the extension -/

/-- A value as it is written between given quotes: backslashes and the quote are escaped, and all
else stands for itself. A value with a line feed in it (`\n`) is therefore written as no literal. -/
def escape (quote : QuoteStyle) : Text → Text
  | [] => []
  | c :: rest =>
    if c = '\\' ∨ c = quote.char then '\\' :: c :: escape quote rest
    else c :: escape quote rest

/-- A text between quotes, less its last character, and less its first one, whatever that is. The
last character has to be a single byte, as a closing quote is; otherwise there is no result, and
`extended` has none either. -/
def inner? (raw : Text) : Option Text :=
  match raw.drop 1 with
  | [] => some []
  | c :: rest =>
    if ((c :: rest).getLast (by simp)).utf8Size = 1 then some ((c :: rest).dropLast) else none

/-- The literal of a value with `.js` behind it. The text between the quotes of `raw` is kept as it
is, escapes and all; without `raw`, the value is written out (`escape`). -/
def extended (raw : Option Text) (value : Text) (quote : QuoteStyle) : Option Text :=
  match raw with
  | some raw => (inner? raw).map fun body => quote.char :: body ++ dotJs ++ [quote.char]
  | none => some (quote.char :: escape quote value ++ dotJs ++ [quote.char])

end StringLiteral

end DotJs
