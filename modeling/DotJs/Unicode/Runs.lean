import DotJs.Unicode.Category

/-!
# Tables of runs

A set of code points is written down as the lengths of its runs: so many code points
outside, so many inside, and so on from zero. A length has no separator behind it:
all of its decimal digits but the last are written as letters, `a` for zero.
-/

namespace DotJs.Unicode

/-- Decodes run lengths; `pending` is the length of the current one as far as it was read. The last
digit of a length tells that it ends. -/
def decodeLengths (pending : Nat) : List Char → List Nat
  | [] => []
  | c :: rest =>
    if c.isDigit then
      (pending * 10 + (c.toNat - '0'.toNat)) :: decodeLengths 0 rest
    else
      decodeLengths (pending * 10 + (c.toNat - 'a'.toNat)) rest

/-- The starts of runs behind code point `start`, and whether each belongs to the set. Runs inside
and outside take turns, so that lengths are all a table needs. -/
def runStarts (start : Nat) (inside : Bool) : List Nat → List (Nat × Bool)
  | [] => [(start, inside)]
  | length :: rest => (start, inside) :: runStarts (start + length) (!inside) rest

/-- A set of code points by its runs: where each starts, and whether it lies in the set. -/
abbrev Runs := Array (Nat × Bool)

/-- The set with the given run lengths, which `Runs` turns into places. -/
def Runs.decode (table : String) : Runs :=
  (runStarts 0 false (decodeLengths 0 (tableText table))).toArray

/-- Whether a code point belongs to a set, by the run that it lies in (`findRun`). -/
def Runs.contains (runs : Runs) (n : Nat) : Bool := (findRun runs n 0 runs.size).getD false

end DotJs.Unicode
