import DotJs.Text

/-!
# Binary numbers with 53 digits

Numbers with a fraction are kept as multiples of a power of two, with at most 53
binary digits and an exponent within the usual range. Every operation is exact up to
one rounding at its end, to the nearest such number and to the even one of two.

* `Binary64.ofRatio?` rounds a quotient of natural numbers;
* `Binary64.digits` is the shortest decimal number that rounds back;
* `Binary64.text` writes it down.
-/

namespace DotJs.Decimal

/-- The number `mantissa · 2 ^ exponent`. Zero and small numbers have the exponent `-1074`; any
other mantissa has all its 53 digits, so that a number is written in one way only. -/
structure Binary64 where
  /-- the binary digits, as a number below `2 ^ 53` -/
  mantissa : Nat
  /-- the power of two -/
  exponent : Int
  deriving DecidableEq, Repr

/-- A quotient rounded to the nearest number, and to the even one of two. It is the only place where
anything is rounded. -/
def roundEven (n d : Nat) : Nat :=
  let q := n / d
  let r := n % d
  if 2 * r < d then q
  else if d < 2 * r then q + 1
  else if q % 2 = 0 then q
  else q + 1

namespace Binary64

/-- Zero, with the exponent of the smallest numbers. -/
def zero : Binary64 := ⟨0, -1074⟩

/-- The quotient `n / d` divided by a power of two, as a quotient, so that no digit is lost before
`roundEven`. -/
def scaled (n d : Nat) (exponent : Int) : Nat × Nat :=
  if 0 ≤ exponent then (n, d * Nat.pow 2 exponent.toNat)
  else (n * Nat.pow 2 (-exponent).toNat, d)

/-- The nearest number to `n / d`, unless that is too large. The exponent is guessed from the
lengths of both numbers, which is at most one too much; when rounding up gives a 54th digit, the
exponent grows by one. -/
def ofRatio? (n d : Nat) : Option Binary64 :=
  if n = 0 then
    some zero
  else
    let guess : Int := (n.log2 : Int) - d.log2 - 52
    let (a, b) := scaled n d guess
    let exponent : Int := max (-1074) (if a < 0x10000000000000 * b then guess - 1 else guess)
    let (a, b) := scaled n d exponent
    let mantissa := roundEven a b
    let rounded : Binary64 :=
      if mantissa = 0x20000000000000 then ⟨0x10000000000000, exponent + 1⟩
      else ⟨mantissa, exponent⟩
    if rounded.exponent ≤ 971 then some rounded else none

/-- The number as a quotient, by which products and quotients are exact until `ofRatio?` rounds. -/
def toRatio (x : Binary64) : Nat × Nat :=
  if 0 ≤ x.exponent then (x.mantissa * Nat.pow 2 x.exponent.toNat, 1)
  else (x.mantissa, Nat.pow 2 (-x.exponent).toNat)

/-- The product of two numbers, rounded once, by `roundEven`. -/
def mul? (x y : Binary64) : Option Binary64 :=
  let (a, b) := x.toRatio
  let (c, d) := y.toRatio
  ofRatio? (a * c) (b * d)

/-- The quotient of two numbers, of which the second is not zero, rounded once, by `roundEven`. -/
def div? (x y : Binary64) : Option Binary64 :=
  let (a, b) := x.toRatio
  let (c, d) := y.toRatio
  ofRatio? (a * d) (b * c)

/-- The nearest number to a power of ten (`10 ^ n`). The power itself is exact, so that it is
rounded once, too. -/
def pow10? (n : Nat) : Option Binary64 := ofRatio? (Nat.pow 10 n) 1

/-! ## Decimal digits -/

/-- The power of ten of the first decimal digit of `n / d`, by the number of digits of the larger
part of the fraction. -/
def leadingPower (n d : Nat) : Int :=
  if d ≤ n then
    ((Nat.toDigits 10 (n / d)).length : Int) - 1
  else
    let j := (Nat.toDigits 10 (d / n)).length
    if d ≤ n * Nat.pow 10 (j - 1) then 1 - (j : Int) else -(j : Int)

/-- A decimal number: `digits · 10 ^ power`. The digits may end in zeros, so that it is not written
in one way only. -/
structure Digits where
  /-- the digits, as a number -/
  digits : Nat
  /-- the power of ten -/
  power : Int
  deriving DecidableEq, Repr

/-- A decimal number as a quotient, to be compared with one of a `Binary64`. -/
def Digits.toRatio (x : Digits) : Nat × Nat :=
  if 0 ≤ x.power then (x.digits * Nat.pow 10 x.power.toNat, 1)
  else (x.digits, Nat.pow 10 (-x.power).toNat)

/-- Whether a decimal number rounds to a given number of `Binary64`, which is what makes it a way to
write that number. -/
def isReadAs (x : Binary64) (d : Digits) : Bool :=
  ofRatio? d.toRatio.1 d.toRatio.2 == some x

/-- The distance of two quotients, multiplied by both denominators, so that it is a whole number. -/
def distance (a b : Nat × Nat) : Nat :=
  let l := a.1 * b.2
  let r := b.1 * a.2
  if l ≤ r then r - l else l - r

/-- The nearest decimal number of so many digits that rounds back (`isReadAs`), if there is one.
Only the two neighbours on either side can be it; of two at the same distance, the one with the even
last digit is. -/
def digitsOf (x : Binary64) (count : Nat) : Option Digits :=
  let (n, d) := x.toRatio
  let power : Int := leadingPower n d - count + 1
  let below :=
    if 0 ≤ power then n / (d * Nat.pow 10 power.toNat)
    else n * Nat.pow 10 (-power).toNat / d
  let low : Digits := ⟨below, power⟩
  let high : Digits :=
    if below + 1 = Nat.pow 10 count then ⟨Nat.pow 10 (count - 1), power + 1⟩
    else ⟨below + 1, power⟩
  match x.isReadAs low, x.isReadAs high with
  | true, true =>
    let toLow := distance (n, d) low.toRatio * high.toRatio.2
    let toHigh := distance (n, d) high.toRatio * low.toRatio.2
    if toLow < toHigh ∨ (toLow = toHigh ∧ below % 2 = 0) then some low else some high
  | true, false => some low
  | false, true => some high
  | false, false => none

/-- The shortest decimal number that rounds back (`isReadAs`). Seventeen digits are always enough,
so that the search ends. -/
def digits (x : Binary64) : Digits :=
  ((List.range 17).findSome? fun n => x.digitsOf (n + 1)).getD ⟨0, 0⟩

/-- So many zeros, to put between digits and the point. -/
def zeros (n : Nat) : Text := List.replicate n '0'

/-- The text of a number that is not negative: positional between 10⁻⁵ and 10¹⁶ and with a point in
any case, otherwise with the power of ten and its sign. -/
def text (x : Binary64) : Text :=
  if x.mantissa = 0 then
    "0.0".toList
  else
    let d := x.digits
    let ds := Text.ofNat d.digits
    let point : Int := ds.length + d.power
    if 0 ≤ d.power ∧ point ≤ 16 then
      ds ++ zeros d.power.toNat ++ ".0".toList
    else if 0 < point ∧ point ≤ 16 then
      ds.take point.toNat ++ '.' :: ds.drop point.toNat
    else if -5 < point ∧ point ≤ 0 then
      "0.".toList ++ zeros (-point).toNat ++ ds
    else
      let e := point - 1
      let mantissa := match ds with
        | [] => []
        | [c] => [c]
        | c :: rest => c :: '.' :: rest
      mantissa ++ 'e' :: (if 0 ≤ e then '+' else '-') :: Text.ofNat e.natAbs

end Binary64

end DotJs.Decimal
