import DotJs.Proofs.Quoted

/-!
# The grammar of string literals

ECMAScript says what a string literal is by rules, and what it means by the code units of
UTF-16 that each rule contributes. This module has these rules.

* `Part` has one rule for each kind of character and escape: plain characters, line
  continuations, escapes of one character, octal, hexadecimal and Unicode escapes. Some rules
  look at what stands behind the escape.
* `Body` is any number of parts, and `IsLiteral` is a body between quotes with the text that its
  code units spell.

Values of this library are texts, so a literal that leaves half of a surrogate pair alone has no
value here. A text is told by its code units (`units_injective`).
-/

namespace DotJs.StringLiteral

/-! ## Code units -/

/-- The code units of a character in UTF-16: one, or the two halves of a surrogate pair for a code
point above `0xFFFF`. -/
def unitsOfChar (c : Char) : List Nat :=
  if c.toNat < 0x10000 then [c.toNat]
  else [0xD800 + (c.toNat - 0x10000) / 0x400, 0xDC00 + (c.toNat - 0x10000) % 0x400]

/-- The code units of a text, in which ECMAScript says what a string is. A half of a pair that
stands alone is no unit of any text. -/
def units (t : Text) : List Nat := t.flatMap unitsOfChar

/-- The code units that an element of a literal stands for. The reader keeps halves of pairs apart
as `surrogate`, and only this joins them. -/
def Element.units : Element → List Nat
  | .char c => unitsOfChar c
  | .surrogate unit _ => [unit]

theorem toNat_lt_or_lt (c : Char) : c.toNat < 0xD800 ∨ 0xDFFF < c.toNat ∧ c.toNat < 0x110000 :=
  c.valid

/-- A text is the only one with its code units, so a value told by its units is told for good. -/
theorem units_injective {s t : Text} (h : units s = units t) : s = t := by
  induction s generalizing t with
  | nil =>
    cases t with
    | nil => rfl
    | cons d t =>
      unfold units unitsOfChar at h
      rw [List.flatMap_cons] at h
      split at h
      · cases h
      · cases h
  | cons c s ih =>
    cases t with
    | nil =>
      unfold units unitsOfChar at h
      rw [List.flatMap_cons] at h
      split at h
      · cases h
      · cases h
    | cons d t =>
      -- the first unit tells whether a character has one or two
      have hc := toNat_lt_or_lt c
      have hd := toNat_lt_or_lt d
      have hcd : c.toNat = d.toNat ∧ units s = units t := by
        simp only [units] at h
        rw [List.flatMap_cons, List.flatMap_cons] at h
        simp only [unitsOfChar] at h
        split at h
        · split at h
          · obtain ⟨hhead, htail⟩ := List.cons.inj h
            exact ⟨hhead, htail⟩
          · obtain ⟨hhead, -⟩ := List.cons.inj h
            omega
        · split at h
          · obtain ⟨hhead, -⟩ := List.cons.inj h
            omega
          · obtain ⟨hhigh, hrest⟩ := List.cons.inj h
            obtain ⟨hlow, htail⟩ := List.cons.inj hrest
            refine ⟨?_, htail⟩
            omega
      rw [Char.toNat_inj.mp hcd.1, ih hcd.2]

/-! ## The rules -/

/-- A number of hexadecimal digits (`hexDigit?`), one at least. It grows at its end, as the rules of
the grammar for such numbers do. -/
inductive HexDigits : Text → Nat → Prop
  /-- one digit -/
  | one {c : Char} {d : Nat} (hc : hexDigit? c = some d) : HexDigits [c] d
  /-- one more digit -/
  | more {t : Text} {n : Nat} {c : Char} {d : Nat} (ht : HexDigits t n)
      (hc : hexDigit? c = some d) : HexDigits (t ++ [c]) (n * 16 + d)

/-- The digits of an octal escape, before what stands `behind` it. There can be three digits if the
first is at most three, else two. A shorter escape ends before a character that is no octal digit;
this look ahead is why the rules have a `behind` at all. -/
inductive OctalDigits : Text → (behind : Text) → Nat → Prop
  /-- one digit -/
  | one {a : Char} {x : Nat} {behind : Text} (ha : octalDigit? a = some x)
      (hbehind : ∀ c, behind.head? = some c → octalDigit? c = none) : OctalDigits [a] behind x
  /-- two digits, where there could be a third -/
  | two {a b : Char} {x y : Nat} {behind : Text} (ha : octalDigit? a = some x) (hx : x ≤ 3)
      (hb : octalDigit? b = some y)
      (hbehind : ∀ c, behind.head? = some c → octalDigit? c = none) :
      OctalDigits [a, b] behind (x * 8 + y)
  /-- two digits, where there can be no third -/
  | twoHigh {a b : Char} {x y : Nat} {behind : Text} (ha : octalDigit? a = some x) (hx : 3 < x)
      (hb : octalDigit? b = some y) : OctalDigits [a, b] behind (x * 8 + y)
  /-- three digits -/
  | three {a b c : Char} {x y z : Nat} {behind : Text} (ha : octalDigit? a = some x) (hx : x ≤ 3)
      (hb : octalDigit? b = some y) (hc : octalDigit? c = some z) :
      OctalDigits [a, b, c] behind ((x * 8 + y) * 8 + z)

/-- The characters that end a line. A backslash before one of them makes a line continuation, which
stands for nothing. -/
def IsLineEnd (c : Char) : Prop := c = '\n' ∨ c = '\r' ∨ c = '\u2028' ∨ c = '\u2029'

/-- One character or escape of a literal, before what stands `behind` it, and the elements that it
stands for. The rules are those of the grammar and not the steps of the reader, which takes one
character at a time. -/
inductive Part (q : QuoteStyle) : Text → (behind : Text) → List Element → Prop
  /-- a character that stands for itself; the separators of lines and paragraphs are such -/
  | plain {c : Char} {behind : Text} (hquote : c ≠ q.char) (hescape : c ≠ '\\') (hlf : c ≠ '\n')
      (hcr : c ≠ '\r') : Part q [c] behind [.char c]
  /-- the end of a line that goes on -/
  | lineEnd {c : Char} {behind : Text} (hc : IsLineEnd c) (hcr : c ≠ '\r') :
      Part q ['\\', c] behind []
  /-- the same, where the line ends in a carriage return only -/
  | carriageReturn {behind : Text} (hbehind : behind.head? ≠ some '\n') :
      Part q ['\\', '\r'] behind []
  /-- the same, where the line ends in a carriage return and a line feed -/
  | carriageReturnLineFeed {behind : Text} : Part q ['\\', '\r', '\n'] behind []
  /-- an escape of one character -/
  | single {c : Char} {behind : Text} (hend : ¬IsLineEnd c) (hx : c ≠ 'x') (hu : c ≠ 'u')
      (hoctal : octalDigit? c = none) : Part q ['\\', c] behind [.char (simpleEscape c)]
  /-- an octal escape, to which `\0` belongs -/
  | octal {t behind : Text} {n : Nat} (ht : OctalDigits t behind n) :
      Part q ('\\' :: t) behind [.char (Char.ofNat n)]
  /-- an escape of two hexadecimal digits -/
  | hex {a b : Char} {x y : Nat} {behind : Text} (ha : hexDigit? a = some x)
      (hb : hexDigit? b = some y) :
      Part q ['\\', 'x', a, b] behind [.char (Char.ofNat (x * 16 + y))]
  /-- an escape of four hexadecimal digits, which is one code unit -/
  | unicode {a b c d : Char} {n : Nat} {e : Element} {behind : Text}
      (hdigits : HexDigits [a, b, c, d] n) (he : Element.ofNat? n true = some e) :
      Part q ['\\', 'u', a, b, c, d] behind [e]
  /-- an escape of any number of hexadecimal digits, which is one code point -/
  | braced {t behind : Text} {n : Nat} {e : Element} (hdigits : HexDigits t n) (hn : n < 0x110000)
      (he : Element.ofNat? n false = some e) :
      Part q ('\\' :: 'u' :: '\x7b' :: (t ++ ['\x7d'])) behind [e]

/-- What stands between the quotes of a literal, and its elements. The closing quote is not in what
stands behind a part: it is neither a digit nor a line feed, so no rule of `Part` would take it for
one. -/
inductive Body (q : QuoteStyle) : Text → List Element → Prop
  /-- nothing -/
  | nil : Body q [] []
  /-- one more part in front -/
  | cons {t rest : Text} {es es' : List Element} (hpart : Part q t rest es)
      (hrest : Body q rest es') : Body q (t ++ rest) (es ++ es')

/-- Whether a text is a literal with given quotes whose value is a given text, told by code units
(`units`). A text whose elements leave half of a surrogate pair alone is a literal with no value
here. -/
def IsLiteral (q : QuoteStyle) (raw value : Text) : Prop :=
  ∃ body es, raw = q.quoted body ∧ Body q body es ∧ es.flatMap Element.units = units value

end DotJs.StringLiteral
