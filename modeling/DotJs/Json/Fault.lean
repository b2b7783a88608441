import DotJs.Json.Value
import DotJs.Unicode.Binary

/-!
# The wording of JSON faults

Each fault has one wording. A string of the wrong kind is quoted in it, with escapes for
everything that would not be seen as it is.
-/

namespace DotJs.Json

open Unicode

/-- The hexadecimal digits of a number, in small letters and without leading zeros, as in
`\u{e9}`. -/
def hexText (n : Nat) : Text := Nat.toDigits 16 n

/-- Whether a character is seen as it is: neither a control or format character, nor a blank other
than the usual one, nor a mark that joins the character before it. -/
def isVisible (c : Char) : Bool :=
  if c == ' ' then true
  else
    match generalCategory c.toNat with
    | .control | .format | .surrogate | .privateUse | .unassigned | .lineSeparator
    | .paragraphSeparator | .spaceSeparator => false
    | _ => !((property? "grext").map fun runs => runs.contains c.toNat).getD false

/-- A character as it is quoted in a fault: as itself if it `isVisible`, and otherwise by an escape.
This is not the form of JSON documents, which `Json.escapedChar` writes. -/
def quotedChar (c : Char) : Text :=
  match c with
  | '\x00' => ['\\', '0']
  | '\t' => ['\\', 't']
  | '\r' => ['\\', 'r']
  | '\n' => ['\\', 'n']
  | '\\' => ['\\', '\\']
  | '"' => ['\\', '"']
  | c =>
    if isVisible c then [c] else "\\u\x7b".toList ++ hexText c.toNat ++ ['}']

/-- A string as it is quoted in the wording of a fault; characters that are not seen (`isVisible`)
are escaped. -/
def quoted (text : Text) : Text := '"' :: text.flatMap quotedChar ++ ['"']

/-- A text between backticks, as faults name what was expected. -/
def ticked (text : Text) : Text := '\x60' :: text ++ ['\x60']

/-- The wording of what stands (`Found`) where something else was expected, with the value itself if
it has no parts. -/
def Found.message : Found → Text
  | .null => "null".toList
  | .bool true => "boolean ".toList ++ ticked "true".toList
  | .bool false => "boolean ".toList ++ ticked "false".toList
  | .number (.natural n) => "integer ".toList ++ ticked (Text.ofNat n)
  | .number (.negative n) => "integer ".toList ++ ticked ('-' :: Text.ofNat n)
  | .number (.float false x) => "floating point ".toList ++ ticked x.text
  | .number (.float true x) => "floating point ".toList ++ ticked ('-' :: x.text)
  | .string text => "string ".toList ++ quoted text
  | .array => "sequence".toList
  | .object => "map".toList

/-- The wording of a `Fault`. Where in the text the fault was met is not part of it. -/
def Fault.message : Fault → Text
  | .endInList => "EOF while parsing a list".toList
  | .endInObject => "EOF while parsing an object".toList
  | .endInString => "EOF while parsing a string".toList
  | .endInValue => "EOF while parsing a value".toList
  | .noColon => "expected ".toList ++ ticked [':']
  | .noListEnd => "expected ".toList ++ ticked [','] ++ " or ".toList ++ ticked [']']
  | .noObjectEnd => "expected ".toList ++ ticked [','] ++ " or ".toList ++ ticked ['}']
  | .noWord => "expected ident".toList
  | .noValue => "expected value".toList
  | .badEscape => "invalid escape".toList
  | .badNumber => "invalid number".toList
  | .numberTooLarge => "number out of range".toList
  | .controlCharacter =>
    "control character (\\u0000-\\u001F) found while parsing a string".toList
  | .keyNotString => "key must be a string".toList
  | .loneSurrogate => "lone leading surrogate in hex escape".toList
  | .halfEscape => "unexpected end of hex escape".toList
  | .trailingComma => "trailing comma".toList
  | .trailingCharacters => "trailing characters".toList
  | .tooDeep => "recursion limit exceeded".toList
  | .duplicateField name => "duplicate field ".toList ++ ticked name
  | .wrongType found expected =>
    "invalid type: ".toList ++ found.message ++ ", expected ".toList ++ expected

end DotJs.Json
