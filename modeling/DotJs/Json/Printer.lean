import DotJs.Json.Value

/-!
# Printing JSON

Documents are printed over several lines: each element of a list and each member of an
object on a line of its own, two blanks further in than what contains it. Empty lists
and objects stay on one line. In strings, only quotes, backslashes and control
characters are escaped.
-/

namespace DotJs.Json

/-- A character in a string. Only what a string may not hold as it stands is escaped, with a letter
where there is one (`Reader.letterEscape?` reads it back) and by number otherwise. -/
def escapedChar (c : Char) : Text :=
  match c with
  | '"' => ['\\', '"']
  | '\\' => ['\\', '\\']
  | '\x08' => ['\\', 'b']
  | '\t' => ['\\', 't']
  | '\n' => ['\\', 'n']
  | '\x0c' => ['\\', 'f']
  | '\r' => ['\\', 'r']
  | c =>
    if c.toNat < 0x20 then
      '\\' :: 'u' :: '0' :: '0' :: [c.toNat / 16, c.toNat % 16].map Nat.digitChar
    else
      [c]

/-- A string between quotes (`escapedChar`), as a value or as the key of a member. -/
def stringText (text : Text) : Text := '"' :: text.flatMap escapedChar ++ ['"']

/-- A number in the form in which `Reader.numberHere` reads it back. The sign is written apart,
since a zero with a fraction can have one too. -/
def Number.text : Number → Text
  | .natural n => Text.ofNat n
  | .negative n => '-' :: Text.ofNat n
  | .float false x => x.text
  | .float true x => '-' :: x.text

/-- The start of a line: a line feed, and the blanks of some levels, two for each. -/
def newLine (level : Nat) : Text := '\n' :: List.replicate (2 * level) ' '

mutual

/-- The text of a value that stands at a level. Only what follows a line feed depends on the level:
the first line of a value is put behind what stands before it. -/
def textAt (level : Nat) : Json → Text
  | .null => "null".toList
  | .bool true => "true".toList
  | .bool false => "false".toList
  | .number n => n.text
  | .string t => stringText t
  | .array [] => "[]".toList
  | .array (j :: js) =>
    '[' :: newLine (level + 1) ++ textAt (level + 1) j ++ elementsAt level js
  | .object [] => ['{', '}']
  | .object ((key, j) :: ms) =>
    '{' :: newLine (level + 1) ++ stringText key ++ ':' :: ' ' :: textAt (level + 1) j
      ++ membersAt level ms

/-- The text behind an element of a list at a level, which `textAt` starts: the other elements with
the commas before them, and the bracket on a line of its own. -/
def elementsAt (level : Nat) : List Json → Text
  | [] => newLine level ++ [']']
  | j :: js => ',' :: newLine (level + 1) ++ textAt (level + 1) j ++ elementsAt level js

/-- The text behind a member of an object at a level, as `elementsAt` has it for lists. -/
def membersAt (level : Nat) : List (Text × Json) → Text
  | [] => newLine level ++ ['}']
  | (key, j) :: ms =>
    ',' :: newLine (level + 1) ++ stringText key ++ ':' :: ' ' :: textAt (level + 1) j
      ++ membersAt level ms

end

/-- The text of a document, which is `textAt` level 0. -/
def text (j : Json) : Text := textAt 0 j

/-- A number that is not negative, as counts and offsets are. -/
def ofNat (n : Nat) : Json := .number (.natural n)

end DotJs.Json
