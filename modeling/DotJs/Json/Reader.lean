import DotJs.Json.Value

/-!
# Reading JSON

A reader takes the start of a text for a value and leaves the rest. It fails with the
first fault that it meets, from left to right. Lists and objects are gone through by
`elements` and `members`, with a reader for what stands in them, so that a value of a
known form is read without building it first.

A value that is not needed is skipped by `skipValue`. That is more lenient: there is no
limit on its depth, and its numbers and escapes are not looked at closely.
-/

namespace DotJs.Json

/-- A reader of the start of a text. Its state is the text that is left, so that `>>=` puts readers
one behind the other, and the first `Fault` ends all of them. -/
abbrev Reader (α : Type) := StateT Text (Except Fault) α

namespace Reader

/-- Fails with a `Fault`, whatever is left of the text. -/
def fail {α : Type} (f : Fault) : Reader α := fun _ => .error f

/-- Blanks between the tokens of a document. These four are all: a mark of the byte order, or any
other white space, is something else than a value. -/
def isBlank (c : Char) : Bool := c == ' ' || c == '\n' || c == '\t' || c == '\r'

/-- The next character that is no blank, if there is one; it is not taken, but the blanks are. Each
reader of a value, a comma or a bracket starts with it. -/
def next : Reader (Option Char) := fun text =>
  let rest := text.dropWhile isBlank
  .ok (rest.head?, rest)

/-- Takes a character, which was looked at by `next` before. -/
def drop : Reader Unit := modify (·.drop 1)

/-- Takes the letters of a word (`null` and its like), one by one: a text that ends in the middle of
it is another fault than a wrong letter. -/
def word : Text → Reader Unit
  | [] => pure ()
  | c :: rest => do
    match ← get with
    | [] => fail .endInValue
    | d :: behind =>
      if c = d then
        set behind
        word rest
      else
        fail .noWord

/-! ## Strings -/

/-- The number of four hexadecimal digits behind `\u`, and what follows them. Fewer than four bytes
are an end of the text, whatever they are, so that a broken escape near the end is told as a string
that does not end. -/
def fourDigits (text : Text) : Except Fault (Nat × Text) :=
  if Text.size (text.take 4) < 4 then
    .error .endInString
  else
    match text with
    | a :: b :: c :: d :: rest =>
      match hexDigit? a, hexDigit? b, hexDigit? c, hexDigit? d with
      | some a, some b, some c, some d => .ok (((a * 16 + b) * 16 + c) * 16 + d, rest)
      | _, _, _, _ => .error .badEscape
    | _ => .error .badEscape

/-- The character of an escape of one letter. Unlike in programs (`StringLiteral.simpleEscape`), a
letter without a meaning is a fault. -/
def letterEscape? (c : Char) : Option Char :=
  match c with
  | '"' => some '"'
  | '\\' => some '\\'
  | '/' => some '/'
  | 'b' => some '\x08'
  | 'f' => some '\x0c'
  | 'n' => some '\n'
  | 'r' => some '\r'
  | 't' => some '\t'
  | _ => none

/-- The second half of a surrogate pair, which has to follow the first one as an escape of its own
(`\udc00` and up): a string of JSON is a text here, and half of a pair has no place in it. -/
def secondHalf (text : Text) : Except Fault (Nat × Text) :=
  match text with
  | [] => .error .endInString
  | '\\' :: [] => .error .endInString
  | '\\' :: 'u' :: rest =>
    match fourDigits rest with
    | .error e => .error e
    | .ok (n, rest) => if 0xDC00 ≤ n ∧ n ≤ 0xDFFF then .ok (n, rest) else .error .loneSurrogate
  | _ => .error .halfEscape

/-- The character of an escape by number, from behind `\u` on. It takes two escapes if the first is
half of a surrogate pair (`secondHalf`). -/
def unicodeEscape (text : Text) : Except Fault (Char × Text) :=
  match fourDigits text with
  | .error e => .error e
  | .ok (n, rest) =>
    if 0xDC00 ≤ n ∧ n ≤ 0xDFFF then .error .loneSurrogate
    else if n < 0xD800 ∨ 0xDBFF < n then .ok (Char.ofNat n, rest)
    else
      match secondHalf rest with
      | .error e => .error e
      | .ok (m, rest) => .ok (Char.ofNat ((n - 0xD800) * 0x400 + (m - 0xDC00) + 0x10000), rest)

/-- Reads a string to its closing quote. Each step takes a character, so that the number of
characters bounds the steps; escapes take several, which is why the recursion is not on the text. -/
def stringBody : (steps : Nat) → Text → Except Fault (Text × Text)
  | 0, _ => .error .endInString
  | _ + 1, [] => .error .endInString
  | steps + 1, c :: rest =>
    if c = '"' then .ok ([], rest)
    else if c = '\\' then
      match rest with
      | [] => .error .endInString
      | e :: rest =>
        if e = 'u' then
          match unicodeEscape rest with
          | .error e => .error e
          | .ok (c, rest) => (stringBody steps rest).map fun (text, rest) => (c :: text, rest)
        else
          match letterEscape? e with
          | none => .error .badEscape
          | some c => (stringBody steps rest).map fun (text, rest) => (c :: text, rest)
    else if c.toNat < 0x20 then .error .controlCharacter
    else (stringBody steps rest).map fun (text, rest) => (c :: text, rest)

/-- A string, from its opening quote on, with a bound on the steps of `stringBody` that is never
reached. -/
def quotedString : Reader Text := fun text =>
  let body := text.drop 1
  stringBody (body.length + 1) body

/-! ## Numbers -/

/-- Takes digits, as many as there are, which can be none. -/
def digitsHere : Reader Text := fun text =>
  .ok (text.takeWhile Char.isDigit, text.dropWhile Char.isDigit)

/-- The number that digits write, of any size: exponents are not cut before they are looked at. -/
def natOf (digits : Text) : Nat :=
  digits.foldl (fun n c => n * 10 + (c.toNat - '0'.toNat)) 0

/-- The longest start of some digits that is a number of 64 bits. Further digits are not counted in;
the answer tells how many there are, and the power of ten makes up for them. -/
def significand (n : Nat) : Text → Nat × Nat
  | [] => (n, 0)
  | c :: rest =>
    let m := n * 10 + (c.toNat - '0'.toNat)
    if m < 0x10000000000000000 then significand m rest else (n, (c :: rest).length)

open Decimal in
/-- Multiplies a number by a power of ten, as far as the range of numbers goes. Large powers are
taken in steps, of which few are ever needed. It rounds at every step, so that the result need not
be the number nearest to what was written. -/
def timesPower10 : (steps : Nat) → Binary64 → Int → Except Fault Binary64
  | 0, _, _ => .ok Binary64.zero
  | steps + 1, x, e =>
    if e.natAbs ≤ 308 then
      let power := Binary64.pow10? e.natAbs
      match power.bind fun p => if 0 ≤ e then x.mul? p else x.div? p with
      | some y => .ok y
      | none => .error .numberTooLarge
    else if x.mantissa = 0 then .ok x
    else if 0 ≤ e then .error .numberTooLarge
    else
      match (Binary64.pow10? 308).bind x.div? with
      | some y => timesPower10 steps y (e + 308)
      | none => .error .numberTooLarge

open Decimal in
/-- The number with the given 64-bit digits and power of ten (`timesPower10`), which can be too
large. -/
def floatOf (isNegative : Bool) (digits : Nat) (power : Int) : Except Fault Number :=
  match Binary64.ofRatio? digits 1 with
  | none => .error .numberTooLarge
  | some x => (timesPower10 8 x power).map (.float isNegative)

/-- The exponent behind `e`: its digits with their sign. -/
def exponentDigits : Reader Int := do
  drop
  let text ← get
  let isNegative := text.head? == some '-'
  if isNegative || text.head? == some '+' then drop
  match ← get with
  | [] => fail .endInValue
  | c :: _ =>
    if !c.isDigit then fail .badNumber
    let e := natOf (← digitsHere)
    return if isNegative then -(e : Int) else e

/-- An exponent, if one follows, behind a number with given digits. An exponent beyond 32 bits makes
zero or is too large, before anything is multiplied. -/
def exponentRest (isNegative : Bool) (digits : Nat) (power : Int) : Reader Number := do
  match (← get).head? with
  | some 'e' | some 'E' =>
    let e ← exponentDigits
    if 0x80000000 ≤ e ∧ digits ≠ 0 then
      fail .numberTooLarge
    else if 0x80000000 ≤ e.natAbs then
      return .float isNegative Decimal.Binary64.zero
    else
      floatOf isNegative digits (power + e)
  | _ => floatOf isNegative digits power

/-- A fraction and an exponent behind a point. `dropped` digits before the point are not counted in;
then none behind it is. -/
def fractionRest (isNegative : Bool) (whole dropped : Nat) : Reader Number := do
  drop
  let behind ← digitsHere
  let (digits, ignored) := significand whole behind
  let used := behind.length - ignored
  if used = 0 && ignored = 0 then
    match ← get with
    | [] => fail .endInValue
    | _ => fail .badNumber
  else
    exponentRest isNegative digits ((dropped : Int) - used)

/-- A number behind its sign. Zero may stand before a point, but not before another digit; what has
neither fraction nor exponent is kept as a whole number if it has 64 bits. -/
def unsigned (isNegative : Bool) : Reader Number := do
  match ← get with
  | [] => fail .endInValue
  | c :: rest =>
    if !c.isDigit then
      fail .badNumber
    else if c = '0' && ((rest.head?.map Char.isDigit).getD false) then
      fail .badNumber
    else
      let (whole, dropped) := significand 0 (← digitsHere)
      match (← get).head? with
      | some '.' => fractionRest isNegative whole dropped
      | some 'e' | some 'E' => exponentRest isNegative whole dropped
      | _ =>
        if dropped ≠ 0 then
          floatOf isNegative whole dropped
        else if !isNegative then
          return .natural whole
        else if whole = 0 ∨ 0x8000000000000000 < whole then
          floatOf true whole 0
        else
          return .negative whole

/-- A number, with the sign that may stand before it (`unsigned` is the rest). There is no plus
sign. -/
def numberHere : Reader Number := do
  if (← get).head? == some '-' then
    drop
    unsigned true
  else
    unsigned false

/-! ## Lists and objects -/

/-- Goes through the elements of a list, up to its closing bracket, which is not taken. `step` reads
an element and adds it to what was read before, so that whoever knows the form of the elements does
not build a `Json` first. The bound on the steps is never reached, since each element takes a
character at least. -/
def elements {α : Type} (step : α → Reader α) : (steps : Nat) → (first : Bool) → α → Reader α
  | 0, _, _ => fail .endInList
  | steps + 1, first, a => do
    match ← next with
    | none => fail .endInList
    | some ']' => return a
    | some c =>
      if first then
        elements step steps false (← step a)
      else if c = ',' then
        drop
        match ← next with
        | none => fail .endInValue
        | some ']' => fail .trailingComma
        | some _ => elements step steps false (← step a)
      else
        fail .noListEnd

/-- A key and the colon behind it, from the quote on. -/
def colon : Reader Unit := do
  match ← next with
  | none => fail .endInObject
  | some ':' => drop
  | some _ => fail .noColon

/-- Goes through the members of an object, up to its closing brace, which is not taken. `step` is
given the key and reads the colon and the value; it may fail on the key alone, as for one that
stands twice. -/
def members {α : Type} (step : Text → α → Reader α) :
    (steps : Nat) → (first : Bool) → α → Reader α
  | 0, _, _ => fail .endInObject
  | steps + 1, first, a => do
    match ← next with
    | none => fail .endInObject
    | some '}' => return a
    | some c =>
      if first then
        if c = '"' then
          members step steps false (← step (← quotedString) a)
        else
          fail .keyNotString
      else if c = ',' then
        drop
        match ← next with
        | none => fail .endInValue
        | some '"' => members step steps false (← step (← quotedString) a)
        | some '}' => fail .trailingComma
        | some _ => fail .keyNotString
      else
        fail .noObjectEnd

/-- The end of a list whose `elements` have all been read. What stands there instead is told as
something behind the value, as the list could have gone on only with an element. -/
def listEnd : Reader Unit := do
  match ← next with
  | none => fail .endInList
  | some ']' => drop
  | some ',' =>
    drop
    match ← next with
    | some ']' => fail .trailingComma
    | _ => fail .trailingCharacters
  | some _ => fail .trailingCharacters

/-- The end of an object whose `members` have all been read. -/
def objectEnd : Reader Unit := do
  match ← next with
  | none => fail .endInObject
  | some '}' => drop
  | some ',' => fail .trailingComma
  | some _ => fail .trailingCharacters

/-- A bound on the steps through the rest of the text, for `elements` and `members`: one more than
its characters. -/
def bound : Reader Nat := do return (← get).length + 1

/-! ## Values -/

/-- A value without parts. The answer is none before a list or an object, whose bracket is then
still there for the caller to take. -/
def scalar : Reader (Option Json) := do
  match ← next with
  | none => fail .endInValue
  | some 'n' =>
    drop
    word "ull".toList
    return some .null
  | some 't' =>
    drop
    word "rue".toList
    return some (.bool true)
  | some 'f' =>
    drop
    word "alse".toList
    return some (.bool false)
  | some '"' => return some (.string (← quotedString))
  | some '[' => return none
  | some '{' => return none
  | some c =>
    if c = '-' || c.isDigit then
      return some (.number (← numberHere))
    else
      fail .noValue

/-- A value with at most so many levels of lists and objects. The recursion is on the levels, and
`elements` and `members` go through what is on each of them. -/
def value : (levels : Nat) → Reader Json
  | 0 => do
    match ← scalar with
    | some j => return j
    | none => fail .tooDeep
  | levels + 1 => do
    match ← scalar with
    | some j => return j
    | none =>
      if (← next) == some '[' then
        drop
        let reversed ← elements (fun js => do return (← value levels) :: js) (← bound) true []
        listEnd
        return .array reversed.reverse
      else
        drop
        let reversed ← members
          (fun key ms => do
            colon
            return (key, ← value levels) :: ms)
          (← bound) true []
        objectEnd
        return .object reversed.reverse

/-! ## Skipping -/

/-- Skips a string, from its opening quote on, where `quotedString` would read it. Escapes have to
be spelt right, but need not spell a text: any four digits will do, also those of half of a
surrogate pair. -/
def skipString : Reader Unit := fun text =>
  let body := text.drop 1
  (go (body.length + 1) body).map fun rest => ((), rest)
where
  /-- Skips the rest of the string. -/
  go : (steps : Nat) → Text → Except Fault Text
    | 0, _ => .error .endInString
    | _ + 1, [] => .error .endInString
    | steps + 1, c :: rest =>
      if c = '"' then .ok rest
      else if c = '\\' then
        match rest with
        | [] => .error .endInString
        | e :: rest =>
          if e = 'u' then
            match fourDigits rest with
            | .error e => .error e
            | .ok (_, rest) => go steps rest
          else if (letterEscape? e).isSome then go steps rest
          else .error .badEscape
      else if c.toNat < 0x20 then .error .controlCharacter
      else go steps rest

/-- Takes digits, of which there has to be one, unlike `digitsHere`. -/
def skipDigits : Reader Unit := do
  if (← digitsHere).isEmpty then fail .badNumber

/-- Skips an exponent, if one follows (`e` or `E`), of whatever size. -/
def skipExponent : Reader Unit := do
  match (← get).head? with
  | some 'e' | some 'E' =>
    drop
    let sign := (← get).head?
    if sign == some '+' || sign == some '-' then drop
    skipDigits
  | _ => pure ()

/-- Skips a number. It has the form that `numberHere` asks for, but no number is too large to be
skipped. -/
def skipNumber : Reader Unit := do
  if (← get).head? == some '-' then drop
  match ← get with
  | '0' :: rest =>
    if (rest.head?.map Char.isDigit).getD false then fail .badNumber
    drop
  | _ => skipDigits
  if (← get).head? == some '.' then
    drop
    skipDigits
  skipExponent

/-- Skips a value without parts (`scalar`) that starts with a given character, which is still
there. -/
def skipScalar (c : Char) : Reader Unit := do
  match c with
  | 'n' =>
    drop
    word "ull".toList
  | 't' =>
    drop
    word "rue".toList
  | 'f' =>
    drop
    word "alse".toList
  | '"' => skipString
  | c => if c = '-' || c.isDigit then skipNumber else fail .noValue

/-- A list or an object, as an entry of the stack of `skipFrom`. The two differ in their brackets,
their faults and in whether keys stand before values; all else is said once for both. -/
inductive Bracket where
  /-- a list -/
  | list
  /-- an object -/
  | object
  deriving DecidableEq, Repr

/-- The bracket that closes a list or an object. -/
def Bracket.closing : Bracket → Char
  | .list => ']'
  | .object => '}'

/-- The fault when the text ends in a list or an object. -/
def Bracket.atEnd : Bracket → Fault
  | .list => .endInList
  | .object => .endInObject

/-- The fault when neither a comma nor the end of the list or object follows. -/
def Bracket.notClosed : Bracket → Fault
  | .list => .noListEnd
  | .object => .noObjectEnd

/-- Skips the key before a value with its colon, where there is one: in an object. -/
def Bracket.skipKey : Bracket → Reader Unit
  | .list => pure ()
  | .object => do
    match ← next with
    | none => fail .endInObject
    | some '"' =>
      skipString
      colon
    | some _ => fail .keyNotString

/-- Where a reader stands that skips a value (`skipFrom`). With the stack of open brackets, this is
all that such a reader knows of what it has passed. -/
inductive Skipping where
  /-- before a value -/
  | before
  /-- behind an opening bracket -/
  | opened
  /-- behind a value -/
  | behind
  deriving DecidableEq, Repr

/-- Skips values until all open brackets (`Bracket`) are closed, the innermost first. It is a
machine with a stack instead of a recursion on levels, because what is skipped may be nested as deep
as the text is long. Of two steps in a row, one takes a character. -/
def skipFrom : (steps : Nat) → Skipping → List Bracket → Reader Unit
  | 0, _, _ => fail .endInValue
  | steps + 1, .before, stack => do
    match ← next with
    | none => fail .endInValue
    | some '[' =>
      drop
      skipFrom steps .opened (.list :: stack)
    | some '{' =>
      drop
      skipFrom steps .opened (.object :: stack)
    | some c =>
      skipScalar c
      skipFrom steps .behind stack
  | _ + 1, _, [] => pure ()
  | steps + 1, .opened, b :: stack => do
    match ← next with
    | none => fail b.atEnd
    | some c =>
      if c = b.closing then
        drop
        skipFrom steps .behind stack
      else
        b.skipKey
        skipFrom steps .before (b :: stack)
  | steps + 1, .behind, b :: stack => do
    match ← next with
    | none => fail b.atEnd
    | some c =>
      if c = ',' then
        drop
        b.skipKey
        skipFrom steps .before (b :: stack)
      else if c = b.closing then
        drop
        skipFrom steps .behind stack
      else
        fail b.notClosed

/-- Skips a value of any depth: `skipFrom` with two steps for each character, which are always
enough. -/
def skipValue : Reader Unit := do
  skipFrom (2 * (← get).length + 4) .before []

/-! ## Documents -/

/-- Blanks up to the end of the text, and nothing else. -/
def documentEnd : Reader Unit := do
  if (← next).isSome then fail .trailingCharacters

end Reader

/-- How many levels of lists and objects a document can have. What is skipped is not counted. -/
def depthLimit : Nat := 127

/-- Runs a reader on a whole text, behind whose value there are only blanks (`documentEnd`). -/
def Reader.document {α : Type} (r : Reader α) (text : Text) : Except Fault α :=
  ((do
    let a ← r
    Reader.documentEnd
    return a : Reader α).run text).map (·.1)

/-- The value that a document holds, if it has no more levels than `depthLimit` allows. -/
def read (text : Text) : Except Fault Json := Reader.document (Reader.value depthLimit) text

end DotJs.Json
