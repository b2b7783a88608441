import DotJs.Regex.Matching

/-!
# Reading the pieces of a pattern

A pattern is read character by character. `Reading` is what is left of it, with the
flags that are in force; in spaced patterns, blanks and comments between pieces are
skipped. The pieces read here are escapes and what stands in their braces.
-/

namespace DotJs.Regex

/-- The flags that change the meaning of a pattern. They hold up to the end of the group in which
they were set. -/
structure Flags where
  /-- letters match both cases (`i`) -/
  ignoreCase : Bool
  /-- `^` and `$` match at lines (`m`) -/
  multiLine : Bool
  /-- the dot matches line feeds (`s`) -/
  dotAll : Bool
  /-- classes are of Unicode (`u`) -/
  unicode : Bool
  /-- carriage returns end lines (`R`) -/
  crlf : Bool
  /-- blanks and comments do not count (`x`) -/
  spaced : Bool
  deriving DecidableEq, Repr

/-- The flags that are in force at the start of a pattern: Unicode (`u`) alone is on. -/
def Flags.initial : Flags := ⟨false, false, false, true, false, false⟩

/-- What is left of a pattern. The flags are part of it because what a character means hangs on
them, and `names` because no two groups may have one name. -/
structure Reading where
  /-- the characters -/
  rest : Text
  /-- the flags in force -/
  flags : Flags
  /-- the names of groups so far -/
  names : List Text
  deriving DecidableEq, Repr

/-- A reader of a piece of a pattern, which fails on a piece that means nothing. Why it means
nothing is not told: a text is a pattern or it is none. -/
abbrev Reader (α : Type) := StateT Reading Option α

namespace Reader

/-- Fails, and with it the whole pattern: `Regex.parse?` has no result then. -/
def refuse {α : Type} : Reader α := fun _ => none

/-- Fails (`refuse`) unless a condition holds. -/
def ensure (b : Bool) : Reader Unit := if b then pure () else refuse

/-- The `Flags` in force at this place of the pattern. -/
def flags : Reader Flags := do return (← get).flags

/-- The characters that are left of the pattern. -/
def rest : Reader Text := do return (← get).rest

/-- The next character, if there is one. It is not taken, and there may be none. -/
def peek? : Reader (Option Char) := do return (← rest).head?

/-- Drops characters, which have been looked at before. -/
def drop (n : Nat) : Reader Unit := modify fun r => { r with rest := r.rest.drop n }

/-- Drops blanks, and comments from `#` to the end of the line. -/
def dropBlanks : (inComment : Bool) → Text → Text
  | _, [] => []
  | true, c :: rest => if c = '\n' then dropBlanks false rest else dropBlanks true rest
  | false, c :: rest =>
    if Unicode.isWhiteSpace c then dropBlanks false rest
    else if c = '#' then dropBlanks true rest
    else c :: rest

/-- Skips blanks and comments (`#`) in spaced patterns, and nothing in others. -/
def skipSpace : Reader Unit := modify fun r =>
  if r.flags.spaced then { r with rest := dropBlanks false r.rest } else r

/-- Drops the next character and the space behind it (`skipSpace`). -/
def dropWithSpace : Reader Unit := do
  drop 1
  skipSpace

/-- The next character; there has to be one. It is not taken. -/
def next : Reader Char := do
  match ← peek? with
  | some c => return c
  | none => refuse

/-- Takes a given text if it comes next, and tells whether it did. -/
def takeText (text : Text) : Reader Bool := do
  if text.isPrefixOf (← rest) then
    drop text.length
    return true
  return false

/-- Takes characters, and the space behind each, as long as they are of a kind: in spaced patterns
even a number can have blanks in it. -/
def takeSpaced (isKind : Char → Bool) : Reader Text := do
  let r ← get
  let (taken, rest) := go r.flags.spaced false r.rest
  set { r with rest }
  return taken
where
  /-- Goes along the text; `inComment` is only ever true in spaced patterns. -/
  go (spaced inComment : Bool) : Text → Text × Text
    | [] => ([], [])
    | c :: rest =>
      if inComment then go spaced (c != '\n') rest
      else if spaced && Unicode.isWhiteSpace c then go spaced false rest
      else if spaced && c == '#' then go spaced true rest
      else if isKind c then
        let (taken, rest) := go spaced false rest
        (c :: taken, rest)
      else ([], c :: rest)

end Reader

open Reader

/-! ## Primitives -/

/-- A piece of a pattern without parts. What it comes to hangs on where it stands: in brackets, a
question about the place is refused. -/
inductive Primitive where
  /-- a character; `byte` when two digits wrote it as a byte -/
  | literal (c : Char) (byte : Bool)
  /-- a set of characters -/
  | set (s : CharSet)
  /-- a question about the place -/
  | look (l : Look)
  deriving DecidableEq, Repr

/-- The number that hexadecimal digits write, cut off behind the largest code point, so that no
number of digits makes it large. -/
def hexNumber (digits : Text) : Nat :=
  digits.foldl (fun n c => min 0x110000 (n * 16 + (hexDigit? c).getD 0)) 0

/-- Whether a character is a hexadecimal digit, as `hexDigit?` has it. -/
def isHex (c : Char) : Bool := (hexDigit? c).isSome

/-- The `Char` with a given number. Halves of surrogate pairs are none, and a pattern that asks for
one is refused. -/
def charOf (n : Nat) : Reader Char := do
  ensure (n < 0xD800 || (0xE000 ≤ n && n < 0x110000))
  return Char.ofNat n

/-- Exactly so many hexadecimal digits, as in `\x41`. -/
def hexDigits : Nat → Reader Text
  | 0 => return []
  | n + 1 => do
    let c ← next
    ensure (isHex c)
    dropWithSpace
    return c :: (← hexDigits n)

/-- An escape that writes a character by its number, from behind its letter on: in braces with any
number of digits (`\u{e9}`), or else with as many as the letter says. -/
def hexEscape (length : Nat) : Reader Primitive := do
  if (← peek?) == some '{' then
    dropWithSpace
    let digits ← takeSpaced isHex
    ensure (!digits.isEmpty && (← peek?) == some '}')
    dropWithSpace
    return .literal (← charOf (hexNumber digits)) false
  else
    return .literal (← charOf (hexNumber (← hexDigits length))) (length == 2)

/-! ## Properties -/

/-- A name as it is compared: without blanks, low lines and dashes, in small letters, and without a
leading `is`. All tables have their names in this form. -/
def looseName (name : Text) : String :=
  let lower := name.map Char.toLower
  let hasIs := lower.take 2 == ['i', 's']
  let body := (if hasIs then lower.drop 2 else lower).filter fun c =>
    !(c == ' ' || c == '_' || c == '-') && c.toNat < 128
  if hasIs && body == ['c'] then "isc" else String.ofList body

/-- The names of the general categories and of their groups, with the codes of the categories that
they stand for (`Unicode.Category.code`). -/
def categoryNames : List (List String × List String) :=
  let letters := ["Lu", "Ll", "Lt", "Lm", "Lo"]
  let marks := ["Mn", "Mc", "Me"]
  let numbers := ["Nd", "Nl", "No"]
  let punctuation := ["Pc", "Pd", "Ps", "Pe", "Pi", "Pf", "Po"]
  let symbols := ["Sm", "Sc", "Sk", "So"]
  let separators := ["Zs", "Zl", "Zp"]
  let others := ["Cc", "Cf", "Co", "Cn", "Cs"]
  let assigned := letters ++ marks ++ numbers ++ punctuation ++ symbols ++ separators
    ++ ["Cc", "Cf", "Co", "Cs"]
  [(["any"], assigned ++ ["Cn"]), (["assigned"], assigned),
   (["l", "letter"], letters), (["lc", "casedletter"], ["Lu", "Ll", "Lt"]),
   (["lu", "uppercaseletter"], ["Lu"]), (["ll", "lowercaseletter"], ["Ll"]),
   (["lt", "titlecaseletter"], ["Lt"]), (["lm", "modifierletter"], ["Lm"]),
   (["lo", "otherletter"], ["Lo"]), (["m", "mark", "combiningmark"], marks),
   (["mn", "nonspacingmark"], ["Mn"]), (["mc", "spacingmark"], ["Mc"]),
   (["me", "enclosingmark"], ["Me"]), (["n", "number"], numbers),
   (["nd", "decimalnumber", "digit"], ["Nd"]), (["nl", "letternumber"], ["Nl"]),
   (["no", "othernumber"], ["No"]), (["p", "punctuation", "punct"], punctuation),
   (["pc", "connectorpunctuation"], ["Pc"]), (["pd", "dashpunctuation"], ["Pd"]),
   (["ps", "openpunctuation"], ["Ps"]), (["pe", "closepunctuation"], ["Pe"]),
   (["pi", "initialpunctuation"], ["Pi"]), (["pf", "finalpunctuation"], ["Pf"]),
   (["po", "otherpunctuation"], ["Po"]), (["s", "symbol"], symbols),
   (["sm", "mathsymbol"], ["Sm"]), (["sc", "currencysymbol"], ["Sc"]),
   (["sk", "modifiersymbol"], ["Sk"]), (["so", "othersymbol"], ["So"]),
   (["z", "separator"], separators), (["zs", "spaceseparator"], ["Zs"]),
   (["zl", "lineseparator"], ["Zl"]), (["zp", "paragraphseparator"], ["Zp"]),
   (["c", "other"], others), (["cc", "control", "cntrl"], ["Cc"]),
   (["cf", "format"], ["Cf"]), (["cs", "surrogate"], ["Cs"]),
   (["co", "privateuse"], ["Co"]), (["cn", "unassigned"], ["Cn"])]

/-- The set of a general category (`Lu`), or of a group of them (`L`). -/
def categorySet (name : String) : Reader CharSet :=
  if name == "ascii" then
    return .range 0 127
  else
    match categoryNames.find? fun (names, _) => names.contains name with
    | some (_, codes) => return .having (.categories codes)
    | none => refuse

/-- The set of a script, by the number that `Unicode.scriptNumber?` has for its name. -/
def scriptSet (name : String) : Reader CharSet :=
  match Unicode.scriptNumber? name with
  | some n => return .having (.script n)
  | none => refuse

/-- The set of a name that stands alone: a property, a category or a script, in this order. Three
short names are both of a property and of something else, and are not taken for the property. -/
def namedSet (name : String) : Reader CharSet :=
  if !(["cf", "sc", "lc"].contains name) && (Unicode.property? name).isSome then
    return .having (.binary name)
  else
    categorySet name <|> scriptSet name

/-- The set of a property with a value, as `sc=Greek`. Only general categories and scripts have
other values than yes and no. -/
def valuedSet (property value : String) : Reader CharSet :=
  if ["gc", "generalcategory"].contains property then categorySet value
  else if ["sc", "script"].contains property then scriptSet value
  else refuse

/-- The set of the text between the braces, and whether it is negated by an operator in it. -/
def bracedSet (text : Text) : Reader (CharSet × Bool) := do
  let before (op : Char) := text.takeWhile (· != op)
  let behind (op : Char) := text.drop ((before op).length + 1)
  let unequal := splitUnequal text
  match unequal with
  | some (name, value) => return (← valuedSet (looseName name) (looseName value), true)
  | none =>
    if text.contains ':' then
      return (← valuedSet (looseName (before ':')) (looseName (behind ':')), false)
    if text.contains '=' then
      return (← valuedSet (looseName (before '=')) (looseName (behind '=')), false)
    return (← namedSet (looseName text), false)
where
  /-- The parts of a text around its first `!=`. -/
  splitUnequal : Text → Option (Text × Text)
    | '!' :: '=' :: rest => some ([], rest)
    | c :: rest => (splitUnequal rest).map fun (a, b) => (c :: a, b)
    | [] => none

/-- A set with the flags applied to it. Letters are folded before the set is negated, so that a
negated set has no letter of which it lacks a variant. -/
def finishSet (flags : Flags) (negated : Bool) (s : CharSet) : CharSet :=
  let s := if flags.ignoreCase then .folded flags.unicode s else s
  if negated then .complement s else s

/-- A property, from behind `p` or `P` on. Outside of Unicode there are none. -/
def propertySet (negated : Bool) : Reader CharSet := do
  ensure (← flags).unicode
  skipSpace
  let c ← next
  if c = '{' then
    dropWithSpace
    let text ← takeSpaced (· != '}')
    let _ ← next
    drop 1
    let (s, unequal) ← bracedSet text
    return finishSet (← flags) (negated != unequal) s
  else
    ensure (c != '\\')
    dropWithSpace
    return finishSet (← flags) negated (← namedSet (looseName [c]))

/-! ## Escapes -/

/-- A class of one letter, such as `\d`. Outside of Unicode its complement could match a part of a
character, and is refused. -/
def letterSet (letter : Char) (negated : Bool) : Reader CharSet := do
  let unicode := (← flags).unicode
  ensure (unicode || !negated)
  let s : CharSet :=
    match letter with
    | 'd' => if unicode then .having .digit else .ofRanges [('0', '9')]
    | 's' => if unicode then .having .space else .ofRanges [('\t', '\r'), (' ', ' ')]
    | _ =>
      if unicode then .having .word
      else .ofRanges [('0', '9'), ('A', 'Z'), ('_', '_'), ('a', 'z')]
  return if negated then .complement s else s

/-- Characters that stand for themselves behind a backslash: all of ASCII but letters, digits and
angle brackets. -/
def isPlainEscape (c : Char) : Bool :=
  c.toNat < 128 && !c.isAlphanum && c != '<' && c != '>'

/-- What a word boundary in braces (`\b{start}`) asks for, by its name. -/
def boundaryName (unicode : Bool) (name : Text) : Option Look :=
  if name = "start".toList then some (.wordStart unicode)
  else if name = "end".toList then some (.wordEnd unicode)
  else if name = "start-half".toList then some (.wordStartHalf unicode)
  else if name = "end-half".toList then some (.wordEndHalf unicode)
  else none

/-- A word boundary, from behind `b` on. Braces behind it can say which one; when they open with
something else than a name, they count repetitions, so that the reader goes back to before them. -/
def wordBoundary : Reader Look := do
  let unicode := (← flags).unicode
  if (← peek?) != some '{' then return .boundary unicode
  let before ← get
  dropWithSpace
  let isNamePart (c : Char) := c.isAlpha || c == '-'
  if !isNamePart (← next) then
    set before
    return .boundary unicode
  let name ← takeSpaced isNamePart
  ensure ((← peek?) == some '}')
  drop 1
  match boundaryName unicode name with
  | some l => return l
  | none => refuse

/-- The characters of escapes of one letter, such as `\n`. -/
def letterEscape (c : Char) : Option Char :=
  match c with
  | 'a' => some '\x07'
  | 'f' => some '\x0c'
  | 't' => some '\t'
  | 'n' => some '\n'
  | 'r' => some '\r'
  | 'v' => some '\x0b'
  | _ => none

/-- An escape, from its backslash on. A letter without a meaning is refused, so that it can be given
one later. -/
def escapeSequence : Reader Primitive := do
  drop 1
  let c ← next
  let unicode := (← flags).unicode
  if ['x', 'u', 'U'].contains c then
    dropWithSpace
    return ← hexEscape (if c = 'x' then 2 else if c = 'u' then 4 else 8)
  drop 1
  if c = 'p' || c = 'P' then return .set (← propertySet (c = 'P'))
  if ['d', 's', 'w'].contains c then return .set (← letterSet c false)
  if ['D', 'S', 'W'].contains c then return .set (← letterSet c.toLower true)
  if isPlainEscape c then return .literal c false
  match letterEscape c with
  | some literal => return .literal literal false
  | none =>
    match c with
    | 'A' => return .look .textStart
    | 'z' => return .look .textEnd
    | 'b' => return .look (← wordBoundary)
    | 'B' => return .look (.noBoundary unicode)
    | '<' => return .look (.wordStart unicode)
    | '>' => return .look (.wordEnd unicode)
    | _ => refuse

end DotJs.Regex
