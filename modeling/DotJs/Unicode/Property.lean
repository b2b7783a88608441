import DotJs.Unicode.Category

/-!
# Properties of characters

Classes of characters that are made of general categories and a few single
characters. ASCII is decided first and without the table.
-/

namespace DotJs.Unicode

/-- Letters, including numbers that are letters (`Nl`). -/
def Category.isLetter : Category → Bool
  | .uppercaseLetter | .lowercaseLetter | .titlecaseLetter | .modifierLetter | .otherLetter
  | .letterNumber => true
  | _ => false

/-- Marks that are written on or beside another character. -/
def Category.isMark : Category → Bool
  | .nonspacingMark | .spacingMark | .enclosingMark => true
  | _ => false

/-- Characters that can open a name (`ID_Start`). Below 128 they are known without the table, which
is most of what is asked. -/
def isNameStart (c : Char) : Bool :=
  if c.toNat < 0x80 then
    c.isAlpha
  else
    let n := c.toNat
    ((generalCategory n).isLetter
        || [0x2118, 0x212E, 0x309B, 0x309C, 0x1885, 0x1886].contains n)
      && n != 0x2E2F

/-- Characters that can go on in a name (`ID_Continue`): those of `isNameStart`, marks, digits and
connectors. -/
def isNamePart (c : Char) : Bool :=
  if c.toNat < 0x80 then
    c.isAlphanum || c == '_'
  else
    let n := c.toNat
    match generalCategory n with
    | .nonspacingMark | .spacingMark | .decimalNumber | .connectorPunctuation => true
    | _ =>
      isNameStart c
        || [0xB7, 0x387, 0x19DA, 0x200C, 0x200D, 0x30FB, 0xFF65].contains n
        || (0x1369 ≤ n && n ≤ 0x1371)

/-- White space (`White_Space`), as it is dropped at the end of lines of ignore files and in spaced
patterns. -/
def isWhiteSpace (c : Char) : Bool :=
  let n := c.toNat
  (9 ≤ n && n ≤ 13) || (0x2000 ≤ n && n ≤ 0x200A)
    || [0x20, 0x85, 0xA0, 0x1680, 0x2028, 0x2029, 0x202F, 0x205F, 0x3000].contains n

/-- Letters in circles and squares, which are symbols (`So`) by category, and yet part of words. -/
def isEnclosedLetter (n : Nat) : Bool :=
  (0x24B6 ≤ n && n ≤ 0x24E9) || (0x1F130 ≤ n && n ≤ 0x1F149) || (0x1F150 ≤ n && n ≤ 0x1F169)
    || (0x1F170 ≤ n && n ≤ 0x1F189)

/-- Characters of words: letters, marks, digits, connectors and joiners. It decides on `\w` and on
word boundaries. -/
def isWordPart (c : Char) : Bool :=
  if c.toNat < 0x80 then
    c.isAlphanum || c == '_'
  else
    let n := c.toNat
    let category := generalCategory n
    category.isLetter || category.isMark || category == .decimalNumber
      || category == .connectorPunctuation || isEnclosedLetter n || n == 0x200C || n == 0x200D

/-- Decimal digits of any writing system (`Nd`). -/
def isDecimalDigit (c : Char) : Bool :=
  if c.toNat < 0x80 then c.isDigit else generalCategory c.toNat == .decimalNumber

end DotJs.Unicode
