import DotJs.Unicode.Binary
import DotJs.Unicode.Folding
import DotJs.Unicode.Property
import DotJs.Unicode.Script

/-!
# Sets of characters

The sets that a pattern can ask for at one place of a text. A set is kept as it was
put together, so that it stays small and can be compared; `CharSet.contains` decides
membership.
-/

namespace DotJs.Regex

open Unicode

/-- Sets that the Unicode standard defines. They are kept by name and not by their characters, which
are looked up when a character is asked about (`Property.holds`). -/
inductive Property where
  /-- the characters of some general categories -/
  | categories (codes : List String)
  /-- the characters with a yes-or-no property -/
  | binary (name : String)
  /-- the characters of a script -/
  | script (number : Nat)
  /-- characters of words -/
  | word
  /-- white space -/
  | space
  /-- decimal digits -/
  | digit
  deriving DecidableEq, Repr

/-- Whether a character has a property. An unknown name is the property of no character; patterns
with such a name are refused before (`namedSet`). -/
def Property.holds (p : Property) (c : Char) : Bool :=
  match p with
  | .categories codes => codes.contains (generalCategory c.toNat).code
  | .binary name => ((property? name).map fun runs => runs.contains c.toNat).getD false
  | .script number => scriptOf c.toNat == number
  | .word => isWordPart c
  | .space => isWhiteSpace c
  | .digit => isDecimalDigit c

/-- A set of characters. It is kept as it was put together, so that patterns stay small, can be
compared, and can be weighed as they are written. -/
inductive CharSet where
  /-- no character -/
  | nothing
  /-- the characters between two numbers, both included -/
  | range (first last : Nat)
  /-- the characters with a property -/
  | having (p : Property)
  /-- the characters of either set -/
  | union (a b : CharSet)
  /-- the characters of both sets -/
  | inter (a b : CharSet)
  /-- the characters of the first set that the second lacks -/
  | diff (a b : CharSet)
  /-- the characters of exactly one of the sets -/
  | either (a b : CharSet)
  /-- the characters that a set lacks -/
  | complement (a : CharSet)
  /-- the characters that are equal up to case to one of a set, or only the letters
  of ASCII among them -/
  | folded (unicode : Bool) (a : CharSet)
  deriving DecidableEq, Repr

namespace CharSet

/-- Whether a character belongs to a set. A `folded` set has a character if it has any of those that
are equal to it up to case. -/
def contains : CharSet → Char → Bool
  | .nothing, _ => false
  | .range first last, c => first ≤ c.toNat && c.toNat ≤ last
  | .having p, c => p.holds c
  | .union a b, c => a.contains c || b.contains c
  | .inter a b, c => a.contains c && b.contains c
  | .diff a b, c => a.contains c && !b.contains c
  | .either a b, c => a.contains c != b.contains c
  | .complement a, c => !a.contains c
  | .folded unicode a, c =>
    (if unicode then caseVariants c else asciiCaseVariants c).any a.contains

/-- A single character, as the range from itself to itself. -/
def single (c : Char) : CharSet := .range c.toNat c.toNat

/-- Any of some ranges of ASCII, each given by its ends. -/
def ofRanges (ranges : List (Char × Char)) : CharSet :=
  ranges.foldr (fun (a, b) s => .union (.range a.toNat b.toNat) s) .nothing

/-- An upper bound on the number of bytes that a set takes in a compiled pattern. A range of ASCII
takes one state; others are spelt out byte by byte. It only decides which patterns are refused for
their size (`weightLimit`). -/
def weight : CharSet → Nat
  | .nothing => 32
  | .range _ last => if last < 128 then 32 else 128
  | .having p =>
    match p with
    | .categories _ => 40000
    | .binary _ => 40000
    | .script _ => 2000
    | .word => 50000
    | .space => 600
    | .digit => 5000
  | .union a b => a.weight + b.weight
  | .inter a b => min a.weight b.weight
  | .diff a b => max a.weight b.weight
  | .either a b => a.weight + b.weight
  | .complement a => a.weight + 256
  | .folded _ a => a.weight + 32

end CharSet

end DotJs.Regex
