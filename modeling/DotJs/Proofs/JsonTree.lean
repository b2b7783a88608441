import DotJs.Proofs.JsonGrammar

/-!
# JSON texts as trees

The grammar of all JSON texts. A `Tree` is what such a text says, less what no reader keeps: it has
the numbers by their digits, whatever their size, and it may hold strings that are no text, as one
half of a surrogate pair can be written as an escape. A value that is skipped can be any tree.

* `Closes` and `Quotes` are about strings, `Numeral` about numbers, `Stands` about trees and their
  parts;
* `Tree.IsWithin` and `Tree.IsText` say which trees can be kept.
-/

namespace DotJs.Json

/-! ## Strings -/

/-- A string is closed between two places, from behind its opening quote on, whatever its escapes by
number (`FourDigits`) stand for. It is all that skipping needs of a string. -/
inductive Closes : Text → Text → Prop
  /-- the closing quote -/
  | close {rest : Text} : Closes ('"' :: rest) rest
  /-- a character that stands for itself -/
  | plain {c : Char} {text rest : Text} (hquote : c ≠ '"') (hslash : c ≠ '\\')
      (hcontrol : 0x20 ≤ c.toNat) (h : Closes text rest) : Closes (c :: text) rest
  /-- an escape of one letter -/
  | letter {e c : Char} {text rest : Text} (he : Reader.letterEscape? e = some c)
      (h : Closes text rest) : Closes ('\\' :: e :: text) rest
  /-- an escape by number -/
  | number {n : Nat} {text text' rest : Text} (hn : FourDigits n text text')
      (h : Closes text' rest) : Closes ('\\' :: 'u' :: text) rest

/-- A string between two places, by the text that it spells (`Spells`). It spells none if an escape
is half of a surrogate pair and the other half is missing. -/
inductive Quotes : Option Text → Text → Text → Prop
  /-- a string that spells a text -/
  | text {t text rest : Text} (h : Spells t text rest) : Quotes (some t) text rest
  /-- a string that spells none -/
  | half {text rest : Text} (h : Closes text rest) (hnone : ∀ t, ¬Spells t text rest) :
      Quotes none text rest

theorem Spells.closes {t text rest : Text} (h : Spells t text rest) : Closes text rest := by
  induction h with
  | close => exact .close
  | plain hquote hslash hcontrol _ ih => exact .plain hquote hslash hcontrol ih
  | letter he _ ih => exact .letter he ih
  | number hn _ _ ih => exact .number hn ih
  | pair hn _ hm _ _ ih => exact .number hn (.number hm ih)

theorem Quotes.closes {t : Option Text} {text rest : Text} (h : Quotes t text rest) :
    Closes text rest := by
  cases h with
  | text h => exact h.closes
  | half h => exact h

/-! ## Numbers -/

/-- Whether a text is digits, of which there is one at least. -/
def IsDigits (digits : Text) : Prop := digits ≠ [] ∧ ∀ c ∈ digits, c.isDigit

/-- The exponent of a number as it is written, such as `e-7`. Its fields carry the grammar, so that
no other can be built. -/
structure Exponent where
  /-- `e` or `E` -/
  mark : Char
  /-- its sign, if it has one -/
  sign : Option Char
  /-- its digits -/
  digits : Text
  /-- the mark is one of the two letters -/
  isMark : mark = 'e' ∨ mark = 'E'
  /-- the sign is one of the two signs -/
  isSign : ∀ c ∈ sign, c = '+' ∨ c = '-'
  /-- there is a digit -/
  isDigits : IsDigits digits

/-- A number as it is written. Its fields carry the grammar, so that each `Numeral` has a text that
is a number, of any size. -/
structure Numeral where
  /-- whether it has a sign -/
  isNegative : Bool
  /-- the digits before the point -/
  whole : Text
  /-- the digits behind the point, if there is one -/
  fraction : Option Text
  /-- the exponent, if there is one -/
  exponent : Option Exponent
  /-- there is a digit before the point -/
  isWhole : IsDigits whole
  /-- no other digit follows a zero at the start -/
  isZero : whole.head? = some '0' → whole = ['0']
  /-- there is a digit behind the point -/
  isFraction : ∀ digits ∈ fraction, IsDigits digits

/-- The text of an exponent: its mark, its sign and its digits. -/
def Exponent.text (e : Exponent) : Text := e.mark :: (e.sign.toList ++ e.digits)

/-- The number that the `digits` and the `sign` of an exponent are, of any size. -/
def Exponent.value (e : Exponent) : Int :=
  if e.sign = some '-' then -(Reader.natOf e.digits : Int) else Reader.natOf e.digits

namespace Numeral

/-- The text of a number behind the digits that it starts with: its `fraction` and its
`exponent`. -/
def tail (n : Numeral) : Text := n.fraction.elim [] ('.' :: ·) ++ n.exponent.elim [] Exponent.text

/-- The text of a number: its sign, its digits and its `tail`. -/
def text (n : Numeral) : Text := (if n.isNegative then ['-'] else []) ++ (n.whole ++ n.tail)

/-- The number with the given 64-bit digits and power of ten, once an exponent is added to it
(`Reader.floatOf`). An exponent beyond 32 bits makes zero or is too large. -/
def scaled (isNegative : Bool) (digits : Nat) (power : Int) :
    Option Exponent → Except Fault Number
  | none => Reader.floatOf isNegative digits power
  | some e =>
    if 0x80000000 ≤ e.value ∧ digits ≠ 0 then .error .numberTooLarge
    else if 0x80000000 ≤ e.value.natAbs then .ok (.float isNegative Decimal.Binary64.zero)
    else Reader.floatOf isNegative digits (power + e.value)

/-- The number that is kept of what is written: a whole one if it has 64 bits and neither a fraction
nor an exponent, and else one with a binary fraction, for which it may be too large. -/
def number (n : Numeral) : Except Fault Number :=
  let (whole, dropped) := Reader.significand 0 n.whole
  match n.fraction, n.exponent with
  | some digits, e =>
    let (digits', ignored) := Reader.significand whole digits
    scaled n.isNegative digits' ((dropped : Int) - (digits.length - ignored : Nat)) e
  | none, some e => scaled n.isNegative whole dropped (some e)
  | none, none =>
    if dropped ≠ 0 then Reader.floatOf n.isNegative whole dropped
    else if !n.isNegative then .ok (.natural whole)
    else if whole = 0 ∨ 0x8000000000000000 < whole then Reader.floatOf true whole 0
    else .ok (.negative whole)

/-- Whether a number can be kept (`Numeral.number`). Only one beyond the largest binary fraction
cannot. -/
def IsInRange (n : Numeral) : Prop := ∃ x, n.number = .ok x

/-- A number starts with a dash or a digit. -/
theorem exists_head (n : Numeral) : ∃ c behind, n.text = c :: behind ∧ (c = '-' ∨ c.isDigit) := by
  obtain ⟨d, digits, hwhole⟩ := List.exists_cons_of_ne_nil n.isWhole.1
  have hd := n.isWhole.2 d (by rw [hwhole]; exact List.mem_cons_self)
  cases hsign : n.isNegative with
  | true => exact ⟨'-', n.whole ++ n.tail, by rw [text, hsign]; rfl, .inl rfl⟩
  | false => exact ⟨d, digits ++ n.tail, by rw [text, hsign, hwhole]; rfl, .inr hd⟩

end Numeral

/-! ## Trees -/

/-- A JSON value as its text tells it. Unlike `Json` it has what no reader keeps, so a value that is
only skipped can be any tree. -/
inductive Tree where
  /-- `null` -/
  | null
  /-- `true` or `false` -/
  | bool (b : Bool)
  /-- a number -/
  | number (n : Numeral)
  /-- a string, by the text that it spells, if it spells one -/
  | string (text : Option Text)
  /-- a list -/
  | array (elements : List Tree)
  /-- an object, each member with the text that its key spells, if it spells one -/
  | object (members : List (Option Text × Tree))

/-- A part of a tree, with a constructor for each kind of place that the grammar of `Stands`
knows. -/
inductive Tree.Part where
  /-- a value -/
  | value (t : Tree)
  /-- a member of an object -/
  | member (m : Option Text × Tree)
  /-- what follows an element of a list, up to the closing bracket -/
  | elements (ts : List Tree)
  /-- what follows a member of an object, up to the closing brace -/
  | members (ms : List (Option Text × Tree))

/-- A part of a tree stands between two places of a text. This is the whole grammar of JSON, where
`Writes` is that of documents with whole numbers. -/
inductive Stands : Tree.Part → Text → Text → Prop
  /-- `null` -/
  | null {rest : Text} : Stands (.value .null) ('n' :: ("ull".toList ++ rest)) rest
  /-- `true` -/
  | yes {rest : Text} : Stands (.value (.bool true)) ('t' :: ("rue".toList ++ rest)) rest
  /-- `false` -/
  | no {rest : Text} : Stands (.value (.bool false)) ('f' :: ("alse".toList ++ rest)) rest
  /-- a number -/
  | number {rest : Text} (n : Numeral) (hrest : EndsNumber rest) :
      Stands (.value (.number n)) (n.text ++ rest) rest
  /-- a string -/
  | string {t : Option Text} {text rest : Text} (h : Quotes t text rest) :
      Stands (.value (.string t)) ('"' :: text) rest
  /-- a list without elements -/
  | noElement {text rest : Text} (h : Blanks text (']' :: rest)) :
      Stands (.value (.array [])) ('[' :: text) rest
  /-- a list -/
  | array {t : Tree} {ts : List Tree} {text first others rest : Text} (hblanks : Blanks text first)
      (ht : Stands (.value t) first others) (hts : Stands (.elements ts) others rest) :
      Stands (.value (.array (t :: ts))) ('[' :: text) rest
  /-- an object without members -/
  | noMember {text rest : Text} (h : Blanks text ('}' :: rest)) :
      Stands (.value (.object [])) ('{' :: text) rest
  /-- an object -/
  | object {m : Option Text × Tree} {ms : List (Option Text × Tree)} {text first others rest : Text}
      (hblanks : Blanks text first) (hm : Stands (.member m) first others)
      (hms : Stands (.members ms) others rest) :
      Stands (.value (.object (m :: ms))) ('{' :: text) rest
  /-- a member -/
  | member {key : Option Text} {t : Tree} {text colon behind value rest : Text}
      (hkey : Quotes key text colon) (hcolon : Blanks colon (':' :: behind))
      (hblanks : Blanks behind value) (ht : Stands (.value t) value rest) :
      Stands (.member (key, t)) ('"' :: text) rest
  /-- the end of a list -/
  | listEnd {text rest : Text} (h : Blanks text (']' :: rest)) : Stands (.elements []) text rest
  /-- one more element -/
  | element {t : Tree} {ts : List Tree} {text behind value others rest : Text}
      (hcomma : Blanks text (',' :: behind)) (hblanks : Blanks behind value)
      (ht : Stands (.value t) value others) (hts : Stands (.elements ts) others rest) :
      Stands (.elements (t :: ts)) text rest
  /-- the end of an object -/
  | objectEnd {text rest : Text} (h : Blanks text ('}' :: rest)) :
      Stands (.members []) text rest
  /-- one more member -/
  | memberBehind {m : Option Text × Tree} {ms : List (Option Text × Tree)}
      {text behind member others rest : Text} (hcomma : Blanks text (',' :: behind))
      (hblanks : Blanks behind member) (hm : Stands (.member m) member others)
      (hms : Stands (.members ms) others rest) : Stands (.members (m :: ms)) text rest

/-- Whether a text is a document that holds a tree (`Stands`), with blanks around it. -/
def Tree.IsHeldBy (t : Tree) (text : Text) : Prop :=
  ∃ first behind, Blanks text first ∧ Stands (.value t) first behind ∧ Blanks behind []

/-! ## Lengths and first characters -/

variable {text rest : Text}

theorem Blanks.length_le (h : Blanks text rest) : rest.length ≤ text.length := by
  obtain ⟨blanks, -, rfl⟩ := h
  simp

theorem FourDigits.length_eq {n : Nat} (h : FourDigits n text rest) :
    text.length = rest.length + 4 := by
  cases h
  simp

theorem Closes.length_lt (h : Closes text rest) : rest.length < text.length := by
  induction h with
  | close => simp
  | plain _ _ _ _ ih => exact Nat.lt_succ_of_lt ih
  | letter _ _ ih => exact Nat.lt_succ_of_lt (Nat.lt_succ_of_lt ih)
  | number hn _ ih =>
    have hlength := hn.length_eq
    simp only [List.length_cons]
    omega

theorem isBlank_of_isDigit {c : Char} (h : c.isDigit) : Reader.isBlank c = false := by
  refine Bool.eq_false_iff.mpr fun hblank => ?_
  simp only [Reader.isBlank, Bool.or_eq_true, beq_iff_eq] at hblank
  rcases hblank with ((rfl | rfl) | rfl) | rfl <;> cases h

namespace Stands

variable {part : Tree.Part} {t : Tree}

/-- Every part takes some of the text, so a reader that counts its steps comes to an end. -/
theorem length_lt (h : Stands part text rest) : rest.length < text.length := by
  induction h with
  | null | yes | no =>
    simp only [List.length_cons, List.length_append]
    omega
  | number n _ =>
    obtain ⟨c, behind, htext, -⟩ := n.exists_head
    simp only [htext, List.length_append, List.length_cons]
    omega
  | string h => exact Nat.lt_succ_of_lt h.closes.length_lt
  | noElement h => exact Nat.lt_succ_of_lt h.length_le
  | array hblanks _ _ iht ihts =>
    have hle := hblanks.length_le
    simp only [List.length_cons]
    omega
  | noMember h => exact Nat.lt_succ_of_lt h.length_le
  | object hblanks _ _ ihm ihms =>
    have hle := hblanks.length_le
    simp only [List.length_cons]
    omega
  | member hkey hcolon hblanks _ iht =>
    have hkey := hkey.closes.length_lt
    have hcolon := hcolon.length_le
    have hblanks := hblanks.length_le
    simp only [List.length_cons] at hcolon ⊢
    omega
  | listEnd h => exact h.length_le
  | element hcomma hblanks _ _ iht ihts =>
    have hcomma := hcomma.length_le
    have hblanks := hblanks.length_le
    simp only [List.length_cons] at hcomma
    omega
  | objectEnd h => exact h.length_le
  | memberBehind hcomma hblanks _ _ ihm ihms =>
    have hcomma := hcomma.length_le
    have hblanks := hblanks.length_le
    simp only [List.length_cons] at hcomma
    omega

/-- A value starts with a character that is no blank and closes no list. -/
theorem exists_head (h : Stands (.value t) text rest) :
    ∃ c behind, text = c :: behind ∧ Reader.isBlank c = false ∧ c ≠ ']' := by
  cases h with
  | number n _ =>
    obtain ⟨c, behind, htext, hc⟩ := n.exists_head
    refine ⟨c, behind ++ rest, by rw [htext, List.cons_append],
      hc.elim (fun hc => hc ▸ rfl) isBlank_of_isDigit, ?_⟩
    rintro rfl
    rcases hc with hc | hc <;> cases hc
  | _ => exact ⟨_, _, rfl, rfl, by decide⟩

/-- A member starts with a quote, that of its key (`Quotes`). -/
theorem exists_quote {m : Option Text × Tree} (h : Stands (.member m) text rest) :
    ∃ behind, text = '"' :: behind := by
  cases h with
  | member => exact ⟨_, rfl⟩

end Stands

/-! ## Trees that can be kept -/

namespace Tree

/-- Whether a value has at most so many levels of lists and objects, and no number that is too large
to be kept (`IsInRange`). -/
inductive IsWithin : (levels : Nat) → Tree → Prop
  /-- `null` -/
  | null {levels : Nat} : IsWithin levels .null
  /-- `true` or `false` -/
  | bool {levels : Nat} {b : Bool} : IsWithin levels (.bool b)
  /-- a number -/
  | number {levels : Nat} {n : Numeral} (h : n.IsInRange) : IsWithin levels (.number n)
  /-- a string -/
  | string {levels : Nat} {t : Option Text} : IsWithin levels (.string t)
  /-- a list takes one level -/
  | array {levels : Nat} {ts : List Tree} (h : ∀ t ∈ ts, IsWithin levels t) :
      IsWithin (levels + 1) (.array ts)
  /-- an object takes one level -/
  | object {levels : Nat} {ms : List (Option Text × Tree)} (h : ∀ m ∈ ms, IsWithin levels m.2) :
      IsWithin (levels + 1) (.object ms)

/-- Whether all strings in a value, keys included, are texts. -/
inductive IsText : Tree → Prop
  /-- `null` -/
  | null : IsText .null
  /-- `true` or `false` -/
  | bool {b : Bool} : IsText (.bool b)
  /-- a number -/
  | number {n : Numeral} : IsText (.number n)
  /-- a string -/
  | string {t : Text} : IsText (.string (some t))
  /-- a list -/
  | array {ts : List Tree} (h : ∀ t ∈ ts, IsText t) : IsText (.array ts)
  /-- an object -/
  | object {ms : List (Option Text × Tree)} (hkeys : ∀ m ∈ ms, m.1.isSome)
      (h : ∀ m ∈ ms, IsText m.2) : IsText (.object ms)

end Tree

end DotJs.Json
