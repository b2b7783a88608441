import DotJs.Source.Token
import DotJs.StringLiteral
import DotJs.Unicode.Property

/-!
# Scanning

Scanning finds the token that starts at a place. What the next token is can hang
on what the grammar expects: a slash divides or opens a regular expression, a
closing brace ends a block or goes on with a template, and text between markup
tags follows rules of its own. The plain scan, `Place.token`, takes the meaning
that needs no expectation; the grammar asks for the others by name where it
expects them.

* `Place.afterTrivia` skips blanks, line breaks and comments;
* `Place.token` scans the next token;
* `Place.regexEnd?`, `Place.templatePart`, `Place.markupText` and `Place.markupWord` scan
  what only the grammar can ask for.

Every scan goes along the text once, with a small state where an escape or a
comment makes a difference.
-/

namespace DotJs.Source

/-! ## Blanks and comments -/

/-- Line breaks, the separators of lines and paragraphs among them. -/
def isLineBreak (c : Char) : Bool :=
  c == '\n' || c == '\r' || c == '\u2028' || c == '\u2029'

/-- Blanks within a line. They are not those of `Unicode.isWhiteSpace`: the mark of the byte order
is one, and line breaks are none. -/
def isBlank (c : Char) : Bool :=
  c == ' ' || c == '\t' || c == '\x0b' || c == '\x0c'
    || (128 ≤ c.toNat
        && ([0x85, 0xA0, 0x1680, 0x180E, 0x202F, 0x205F, 0x3000, 0xFEFF].contains c.toNat
          || (0x2000 ≤ c.toNat && c.toNat ≤ 0x200B)))

/-- Where a reader of trivia stands. -/
inductive Trivia where
  /-- outside of comments -/
  | between
  /-- in a comment that the line ends -/
  | line
  /-- in a comment between `/*` and `*/` -/
  | block
  deriving DecidableEq, Repr

/-- Skips trivia. The result tells the place behind and whether a line break was passed; there is
none when a comment is left open. In a plain script, `<!--` opens a comment of one line, and so does
`-->` at the start of a line. -/
def skipTrivia (script : Bool) : Trivia → (newLine : Bool) → (offset : Nat) → Text →
    Option (Place × Bool)
  | .block, _, _, [] => none
  | .between, nl, o, [] => some (⟨[], o⟩, nl)
  | .line, nl, o, [] => some (⟨[], o⟩, nl)
  | .line, nl, o, c :: rest =>
    if isLineBreak c then skipTrivia script .between true (o + c.utf8Size) rest
    else skipTrivia script .line nl (o + c.utf8Size) rest
  | .block, nl, o, '*' :: '/' :: rest => skipTrivia script .between nl (o + 2) rest
  | .block, nl, o, c :: rest =>
    skipTrivia script .block (nl || isLineBreak c) (o + c.utf8Size) rest
  | .between, nl, o, '/' :: '/' :: rest => skipTrivia script .line nl (o + 2) rest
  | .between, nl, o, '/' :: '*' :: rest => skipTrivia script .block nl (o + 2) rest
  | .between, nl, o, '<' :: '!' :: '-' :: '-' :: rest =>
    if script then skipTrivia script .line nl (o + 4) rest
    else some (⟨'<' :: '!' :: '-' :: '-' :: rest, o⟩, nl)
  | .between, nl, o, '-' :: '-' :: '>' :: rest =>
    if script && nl then skipTrivia script .line nl (o + 3) rest
    else some (⟨'-' :: '-' :: '>' :: rest, o⟩, nl)
  | .between, nl, o, c :: rest =>
    if isBlank c then skipTrivia script .between nl (o + c.utf8Size) rest
    else if isLineBreak c then skipTrivia script .between true (o + c.utf8Size) rest
    else some (⟨c :: rest, o⟩, nl)

/-- Skips the first line when it opens with `#!`, which it can only at the very start of a
source. -/
def Place.afterHashbang (p : Place) : Place :=
  match p.rest with
  | '#' :: '!' :: _ => dropLine p.offset p.rest
  | _ => p
where
  /-- The place of the line break that ends the current line. -/
  dropLine (o : Nat) : Text → Place
    | [] => ⟨[], o⟩
    | c :: rest => if isLineBreak c then ⟨c :: rest, o⟩ else dropLine (o + c.utf8Size) rest

/-! ## Words -/

/-- Characters that open a word: those of `Unicode.isNameStart`, `$` and `_`. -/
def isWordStart (c : Char) : Bool := Unicode.isNameStart c || c == '$' || c == '_'

/-- Characters that go on with a word: those of `Unicode.isNamePart`, `$` and the two joiners. -/
def isWordPart (c : Char) : Bool :=
  Unicode.isNamePart c || c == '$' || c == '\u200c' || c == '\u200d'

/-- Where a reader of a word stands. Words can be written with escapes, and the states are the
places inside one. -/
inductive WordProgress where
  /-- between two characters -/
  | plain
  /-- behind a backslash -/
  | backslash
  /-- behind `\u` -/
  | unicode
  /-- in `\uXXXX`, with `missing` digits to come -/
  | hex (number missing : Nat)
  /-- in `\u{…}` -/
  | braced (number : Nat)
  deriving DecidableEq, Repr

/-- A word as far as it was read: its characters in reverse, and whether one of them was an
escape. -/
structure WordSoFar where
  /-- the characters, the last one first -/
  reversed : Text
  /-- whether there was an escape -/
  escaped : Bool
  deriving DecidableEq, Repr

/-- Adds the character with a given number, when it can stand there as a character: an escape makes
no word of what is none. -/
def WordSoFar.addEscape? (w : WordSoFar) (n : Nat) : Option WordSoFar :=
  if n < 0xD800 ∨ (0xE000 ≤ n ∧ n < 0x110000) then
    let c := Char.ofNat n
    if (if w.reversed = [] then isWordStart c else isWordPart c) then
      some ⟨c :: w.reversed, true⟩
    else
      none
  else
    none

/-- Reads a word to its end (`WordProgress`). A broken escape leaves no word at all. -/
def scanWord : WordProgress → WordSoFar → (offset : Nat) → Text → Option (WordSoFar × Place)
  | .plain, w, o, [] => some (w, ⟨[], o⟩)
  | _, _, _, [] => none
  | .plain, w, o, c :: rest =>
    if c = '\\' then scanWord .backslash w (o + 1) rest
    else if (if w.reversed = [] then isWordStart c else isWordPart c) then
      scanWord .plain ⟨c :: w.reversed, w.escaped⟩ (o + c.utf8Size) rest
    else
      some (w, ⟨c :: rest, o⟩)
  | .backslash, w, o, c :: rest =>
    if c = 'u' then scanWord .unicode w (o + 1) rest else none
  | .unicode, w, o, c :: rest =>
    if c = '{' then
      scanWord (.braced 0) w (o + 1) rest
    else
      match hexDigit? c with
      | some d => scanWord (.hex d 3) w (o + 1) rest
      | none => none
  | .hex n missing, w, o, c :: rest =>
    match hexDigit? c with
    | none => none
    | some d =>
      if missing ≤ 1 then
        match w.addEscape? (n * 16 + d) with
        | some w => scanWord .plain w (o + 1) rest
        | none => none
      else
        scanWord (.hex (n * 16 + d) (missing - 1)) w (o + 1) rest
  | .braced n, w, o, c :: rest =>
    if c = '}' then
      match w.addEscape? n with
      | some w => scanWord .plain w (o + 1) rest
      | none => none
    else
      match hexDigit? c with
      | some d => if n < 0x110000 then scanWord (.braced (n * 16 + d)) w (o + 1) rest else none
      | none => none

/-! ## Numbers -/

/-- Skips digits, between which single low lines may stand, as in `1_000`. The flag says whether a
digit stands right before. A low line without a digit on either side is refused. -/
def skipDigits (isDigit : Char → Bool) : (afterDigit : Bool) → (offset : Nat) → Text →
    Option Place
  | afterDigit, o, [] => if afterDigit then some ⟨[], o⟩ else none
  | afterDigit, o, c :: rest =>
    if isDigit c then skipDigits isDigit true (o + 1) rest
    else if c = '_' ∧ afterDigit then skipDigits isDigit false (o + 1) rest
    else if afterDigit then some ⟨c :: rest, o⟩
    else none

/-- Skips decimal digits without `_`, and tells whether all are octal. -/
def skipOldDigits : (octal : Bool) → (offset : Nat) → Text → Bool × Place
  | octal, o, [] => (octal, ⟨[], o⟩)
  | octal, o, c :: rest =>
    if c.isDigit then skipOldDigits (octal && c != '8' && c != '9') (o + 1) rest
    else (octal, ⟨c :: rest, o⟩)

/-- A number ends where neither a digit nor a word follows: `3in` is no number and a word. -/
def numberEnd? (p : Place) : Option Place :=
  match p.rest with
  | [] => some p
  | c :: _ => if c.isDigit || isWordStart c then none else some p

/-- Goes on behind `e`, with a sign or without. -/
def exponent? (p : Place) : Option Place :=
  match p.rest with
  | '+' :: rest => (skipDigits Char.isDigit false (p.offset + 1) rest).bind numberEnd?
  | '-' :: rest => (skipDigits Char.isDigit false (p.offset + 1) rest).bind numberEnd?
  | rest => (skipDigits Char.isDigit false p.offset rest).bind numberEnd?

/-- Goes on behind the digits before or behind the point. -/
def exponentOrEnd? (p : Place) : Option Place :=
  match p.rest with
  | 'e' :: rest => exponent? ⟨rest, p.offset + 1⟩
  | 'E' :: rest => exponent? ⟨rest, p.offset + 1⟩
  | _ => numberEnd? p

/-- Goes on behind the point, where digits can be missing, as in `1.`. -/
def fraction? (p : Place) : Option Place :=
  match p.rest with
  | [] => some p
  | c :: _ =>
    if c.isDigit then (skipDigits Char.isDigit false p.offset p.rest).bind exponentOrEnd?
    else exponentOrEnd? p

/-- Goes on behind the prefix of a number that is not decimal, such as `0x`. -/
def radix? (isDigit : Char → Bool) (p : Place) : Option Place :=
  (skipDigits isDigit false p.offset p.rest).bind fun p =>
    match p.rest with
    | 'n' :: rest => numberEnd? ⟨rest, p.offset + 1⟩
    | _ => numberEnd? p

/-- Goes on behind the digits before the point. An `n` there ends a whole number of any size. -/
def afterWholePart? (p : Place) : Option Place :=
  match p.rest with
  | '.' :: rest => fraction? ⟨rest, p.offset + 1⟩
  | 'n' :: rest => numberEnd? ⟨rest, p.offset + 1⟩
  | _ => exponentOrEnd? p

/-- Goes on behind a zero and before a digit, as old numbers are written: octal if all digits are
(`skipOldDigits`), else decimal. -/
def oldNumber? (p : Place) : Option Place :=
  match skipOldDigits true p.offset p.rest with
  | (true, p) => numberEnd? p
  | (false, p) =>
    match p.rest with
    | '.' :: rest => fraction? ⟨rest, p.offset + 1⟩
    | 'e' :: rest => exponent? ⟨rest, p.offset + 1⟩
    | _ => numberEnd? p

/-- Scans a number that starts with a digit. Its value is not kept, as nothing asks for it. -/
def number? (p : Place) : Option Place :=
  match p.rest with
  | '0' :: c :: rest =>
    if c = 'x' ∨ c = 'X' then radix? (fun d => (hexDigit? d).isSome) ⟨rest, p.offset + 2⟩
    else if c = 'o' ∨ c = 'O' then radix? (fun d => (octalDigit? d).isSome) ⟨rest, p.offset + 2⟩
    else if c = 'b' ∨ c = 'B' then radix? (fun d => d == '0' || d == '1') ⟨rest, p.offset + 2⟩
    else if c.isDigit then oldNumber? ⟨c :: rest, p.offset + 1⟩
    else afterWholePart? ⟨c :: rest, p.offset + 1⟩
  | _ => (skipDigits Char.isDigit false p.offset p.rest).bind afterWholePart?

/-! ## Templates -/

/-- Whether what stands behind a backslash is an escape of templates, in which octal escapes have no
meaning. -/
def isTemplateEscape : Text → Bool
  | 'x' :: a :: b :: _ => (hexDigit? a).isSome && (hexDigit? b).isSome
  | 'x' :: _ => false
  | 'u' :: '{' :: rest =>
    let digits := rest.takeWhile fun c => (hexDigit? c).isSome
    let number := digits.foldl (fun n c => min 0x110000 (n * 16 + (hexDigit? c).getD 0)) 0
    !digits.isEmpty && number < 0x110000 && (rest.drop digits.length).head? == some '}'
  | 'u' :: a :: b :: c :: d :: _ => [a, b, c, d].all fun x => (hexDigit? x).isSome
  | 'u' :: _ => false
  | '0' :: c :: _ => !c.isDigit
  | c :: _ => !('1' ≤ c && c ≤ '9')
  | [] => false

/-- Scans a part of a template, from behind a backtick or a closing brace to behind the next
backtick or `${`. What stands between the braces is left to the grammar. -/
def scanTemplate : (escape proper : Bool) → (offset : Nat) → Text → Option (Kind × Place)
  | _, _, _, [] => none
  | true, proper, o, c :: rest => scanTemplate false proper (o + c.utf8Size) rest
  | false, proper, o, '$' :: '{' :: rest => some (.template false proper, ⟨rest, o + 2⟩)
  | false, proper, o, c :: rest =>
    if c = '\x60' then some (.template true proper, ⟨rest, o + 1⟩)
    else if c = '\\' then scanTemplate true (proper && isTemplateEscape rest) (o + 1) rest
    else scanTemplate false proper (o + c.utf8Size) rest

/-! ## Punctuators -/

/-- The punctuators, longer ones before shorter ones with the same start. A greater-than sign is
always a token of its own, since it can close a list of type arguments; `wideMarks` are those it
opens in expressions. -/
def marks : List (Text × String) :=
  [openBrace, closeBrace, "(", ")", "[", "]", ";", ",", "<<=", "<<", "<=", "<", ">", "===", "==",
   "=>", "=", "!==", "!=", "!", "++", "+=", "+", "--", "-=", "-", "**=", "**", "*=", "*", "/=", "/",
   "%=", "%", "&&=", "&&", "&=", "&", "||=", "||", "|=", "|", "^=", "^", "~", "??=", "??", "?", ":",
   "...", ".", "@"].map fun m => (m.toList, m)

/-- The punctuators that open with a greater-than sign. `wideMark` asks for one where an operator
can stand. -/
def wideMarks : List (Text × String) :=
  [">>>=", ">>>", ">>=", ">>", ">=", ">"].map fun m => (m.toList, m)

/-- The first of some punctuators that a text opens with, which is the longest if the list is in the
order of `marks`. -/
def markOf (candidates : List (Text × String)) (text : Text) : Option String :=
  (candidates.find? fun (chars, _) => chars.isPrefixOf text).map (·.2)

/-- A punctuator at a place. `?.` before a digit is a question mark and the start of a number. -/
def scanMark (p : Place) : Kind × Place :=
  match p.rest with
  | '?' :: '.' :: c :: _ =>
    if c.isDigit then (.mark "?", p.skip 1) else (.mark "?.", p.skip 2)
  | ['?', '.'] => (.mark "?.", p.skip 2)
  | text =>
    match markOf marks text with
    | some m => (.mark m, p.skip m.length)
    | none => (.invalid, p)

/-! ## Tokens -/

/-- A word, or what starts like one and is none. -/
def wordToken (p : Place) : Kind × Bool × Place :=
  match scanWord .plain ⟨[], false⟩ p.offset p.rest with
  | some (w, q) =>
    if w.reversed = [] then (.invalid, false, p)
    else (.word (String.ofList w.reversed.reverse), w.escaped, q)
  | none => (.invalid, false, p)

/-- A string literal, from its opening quote. It is read by `StringLiteral.readBody`, so that the
value of a token is what the same text means as a literal. -/
def stringToken (quote : Char) (p : Place) : Kind × Place :=
  match StringLiteral.readBody quote .plain (p.rest.drop 1) with
  | some (es, n, rest) =>
    let raw := p.rest.take (n + 1)
    let whole := (StringLiteral.plainText? (StringLiteral.joinPairs es)).isSome
    (.string (StringLiteral.value es) raw whole, ⟨rest, p.offset + Text.size raw⟩)
  | none => (.invalid, p)

/-- What an optional place behind a token of known kind means: without one there is no such
token. -/
def kindOr (kind : Kind) (p : Place) : Option Place → Kind × Place
  | some q => (kind, q)
  | none => (.invalid, p)

/-- The kind of the token at a place that follows trivia, whether it is a word with escapes, and the
place behind it. The first character decides which of the scans above is asked. -/
def Place.kind (p : Place) : Kind × Bool × Place :=
  match p.rest with
  | [] => (.endOfSource, false, p)
  | c :: rest =>
    if c = '\'' ∨ c = '"' then
      let (k, q) := stringToken c p
      (k, false, q)
    else if c.isDigit then
      let (k, q) := kindOr .number p (number? p)
      (k, false, q)
    else if c = '.' ∧ (rest.head?.map Char.isDigit).getD false then
      let (k, q) := kindOr .number p (fraction? ⟨rest, p.offset + 1⟩)
      (k, false, q)
    else if c = '\x60' then
      match scanTemplate false true (p.offset + 1) rest with
      | some (k, q) => (k, false, q)
      | none => (.invalid, false, p)
    else if c = '#' then
      match wordToken ⟨rest, p.offset + 1⟩ with
      | (.word name, _, q) => (.privateName name, false, q)
      | _ => (.invalid, false, p)
    else if c = '\\' ∨ isWordStart c then
      wordToken p
    else
      let (k, q) := scanMark p
      (k, false, q)

/-- The next token behind a place, and the place behind the token. A comment that is left open is an
`invalid` token. -/
def Place.token (script first : Bool) (p : Place) : Token × Place :=
  match skipTrivia script .between first p.offset p.rest with
  | none => (⟨.invalid, p.offset, p.offset, false, false⟩, p)
  | some (q, newLine) =>
    let (kind, escaped, r) := q.kind
    (⟨kind, q.offset, r.offset, newLine, escaped⟩, r)

/-! ## What only the grammar can ask for -/

/-- Skips the body of a regular expression, up to behind its closing slash. A slash in brackets
closes nothing. -/
def skipRegexBody : (escape inClass : Bool) → (offset : Nat) → Text → Option Place
  | _, _, _, [] => none
  | true, inClass, o, c :: rest =>
    if isLineBreak c then none else skipRegexBody false inClass (o + c.utf8Size) rest
  | false, inClass, o, c :: rest =>
    if isLineBreak c then none
    else if c = '\\' then skipRegexBody true inClass (o + 1) rest
    else if c = '[' then skipRegexBody false true (o + 1) rest
    else if c = ']' then skipRegexBody false false (o + 1) rest
    else if c = '/' ∧ inClass = false then some ⟨rest, o + 1⟩
    else skipRegexBody false inClass (o + c.utf8Size) rest

/-- Skips the flags of a regular expression. Each is one of eight letters and stands once. -/
def skipFlags : (seen : Text) → (offset : Nat) → Text → Option Place
  | _, o, [] => some ⟨[], o⟩
  | seen, o, c :: rest =>
    if c.isAlphanum || c == '$' || c == '_' then
      if "dgimsuvy".toList.contains c && !seen.contains c then
        skipFlags (c :: seen) (o + 1) rest
      else
        none
    else
      some ⟨c :: rest, o⟩

/-- The place behind a regular expression, from behind its opening slash. The expression itself is
not looked at. -/
def Place.regexEnd? (p : Place) : Option Place :=
  (skipRegexBody false false p.offset p.rest).bind fun q => skipFlags [] q.offset q.rest

/-- The part of a template from behind a closing brace on. -/
def Place.templatePart (p : Place) : Kind × Place :=
  (scanTemplate false true p.offset p.rest).getD (.invalid, p)

/-- Skips text between tags. It ends before a brace or an angle bracket; closing ones must not stand
in it. -/
def skipMarkupText : (offset : Nat) → Text → Option Place
  | _, [] => none
  | o, c :: rest =>
    if c = '{' ∨ c = '<' then some ⟨c :: rest, o⟩
    else if c = '}' ∨ c = '>' then none
    else skipMarkupText (o + c.utf8Size) rest

/-- What stands at a place between tags: a brace, an angle bracket or text. -/
def Place.markupText (p : Place) : Kind × Place :=
  match p.rest with
  | '{' :: _ => (.mark "\x7b", p.skip 1)
  | '<' :: _ => (.mark "<", p.skip 1)
  | rest => kindOr .markupText p (skipMarkupText p.offset rest)

/-- Skips what goes on with a word in a tag, dashes included: `data-id` is one name there. -/
def Place.markupWord (p : Place) : Place := go p.offset p.rest
where
  /-- Skips dashes and parts of words. -/
  go (o : Nat) : Text → Place
    | [] => ⟨[], o⟩
    | c :: rest => if c = '-' || isWordPart c then go (o + c.utf8Size) rest else ⟨c :: rest, o⟩

/-- Skips a text in quotes as it is written in a tag: without escapes, and on any number of
lines. -/
def skipMarkupString (quote : Char) : (offset : Nat) → Text → Option Place
  | _, [] => none
  | o, c :: rest =>
    if c = quote then some ⟨rest, o + 1⟩ else skipMarkupString quote (o + c.utf8Size) rest

end DotJs.Source
