import DotJs.Decimal.Binary64

/-!
# JSON values

The values of JSON documents, and the reasons for which a text is no document or not
the one that was expected.
-/

namespace DotJs

namespace Json

/-- A number as it was written: a whole one of 64 bits, or one with a fraction (`Binary64`), which
has a sign even when it is zero. What a number is kept as hangs on how it is written, and not only
on its size. -/
inductive Number where
  /-- a whole number that is not negative -/
  | natural (n : Nat)
  /-- a negative whole number, by its absolute value -/
  | negative (n : Nat)
  /-- any other number -/
  | float (isNegative : Bool) (x : Decimal.Binary64)
  deriving DecidableEq, Repr

end Json

/-- A JSON value. The members of an object are in the order of the text, and a key can stand twice:
`Json.read` keeps what was written, and what to do about it is left to those who use it. -/
inductive Json where
  /-- `null` -/
  | null
  /-- `true` or `false` -/
  | bool (b : Bool)
  /-- a number -/
  | number (n : Json.Number)
  /-- a string -/
  | string (text : Text)
  /-- a list -/
  | array (elements : List Json)
  /-- an object -/
  | object (members : List (Text × Json))
  deriving Repr

namespace Json

/-- What stands where something else was expected: a value, of which lists and objects are only
named. -/
inductive Found where
  /-- `null` -/
  | null
  /-- `true` or `false` -/
  | bool (b : Bool)
  /-- a number -/
  | number (n : Number)
  /-- a string -/
  | string (text : Text)
  /-- a list -/
  | array
  /-- an object -/
  | object
  deriving DecidableEq, Repr

/-- Why a text is refused. There is a fault for each wording (`Fault.message`), and one text has
only the fault that is met first from left to right. -/
inductive Fault where
  /-- the text ends within a list -/
  | endInList
  /-- the text ends within an object -/
  | endInObject
  /-- the text ends within a string -/
  | endInString
  /-- the text ends where a value has to stand -/
  | endInValue
  /-- something else than a colon -/
  | noColon
  /-- something else than a comma or the end of a list -/
  | noListEnd
  /-- something else than a comma or the end of an object -/
  | noObjectEnd
  /-- a word that is none of the three -/
  | noWord
  /-- something else than a value -/
  | noValue
  /-- an escape that is none -/
  | badEscape
  /-- a number that is none -/
  | badNumber
  /-- a number that is too large -/
  | numberTooLarge
  /-- a control character in a string -/
  | controlCharacter
  /-- a key that is no string -/
  | keyNotString
  /-- half of a surrogate pair in the wrong place -/
  | loneSurrogate
  /-- half of a surrogate pair with no escape behind it -/
  | halfEscape
  /-- a comma before the end of a list or object -/
  | trailingComma
  /-- something behind the value -/
  | trailingCharacters
  /-- too many levels -/
  | tooDeep
  /-- the same key again -/
  | duplicateField (name : Text)
  /-- a value of the wrong kind -/
  | wrongType (found : Found) (expected : Text)
  deriving DecidableEq, Repr

end Json

end DotJs
