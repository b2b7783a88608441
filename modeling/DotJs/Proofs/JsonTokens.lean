import DotJs.Proofs.JsonTree

/-!
# Reading the tokens of JSON

What readers come to on blanks, words, strings and numbers. A reader takes a value and leaves a
rest, or it fails: `Reader.Gives` says both at once, and `Reader.Gives.bind` puts readers one behind
the other.

* `Reader.gives_quotedString` is about strings with any escapes, `Reader.numberHere_text` about
  numbers with fractions and exponents;
* `Reader.gives_scalar` is about all values without parts.
-/

namespace DotJs.Json

variable {text rest : Text} {c : Char}

namespace Reader

/-! ## Steps of a reader -/

variable {α β : Type} {r : Reader α} {a : α}

/-- A reader goes on where the one before it has stopped. It is the case of `Gives.bind` for a known
result. -/
theorem run_bind {k : α → Reader β} (h : r text = .ok (a, rest)) : (r >>= k) text = k a rest := by
  change (r text >>= fun x => k x.1 x.2) = k a rest
  rw [h]
  rfl

/-- A reader fails when one before it does. -/
theorem run_bind_error {k : α → Reader β} {fault : Fault} (h : r text = .error fault) :
    (r >>= k) text = .error fault := by
  change (r text >>= fun x => k x.1 x.2) = .error fault
  rw [h]
  rfl

/-- What a `Reader` does with a text: it takes a value and leaves a rest, or it fails. Which fault
it tells is left open, since several may be wrong with a text. -/
def Gives (r : Reader α) (text : Text) (a? : Option α) (rest : Text) : Prop :=
  match a? with
  | some a => r text = .ok (a, rest)
  | none => ∃ fault, r text = .error fault

namespace Gives

variable {a? : Option α} {mid : Text}

/-- A reader goes on where the one before it has stopped, if that has not failed. Readers are put
together by this, and not unfolded. -/
theorem bind {k : α → Reader β} {f : α → Option β} (h : Gives r text a? mid)
    (hk : ∀ a, a? = some a → Gives (k a) mid (f a) rest) :
    Gives (r >>= k) text (a?.bind f) rest := by
  cases a? with
  | none =>
    obtain ⟨fault, h⟩ := h
    exact ⟨fault, run_bind_error h⟩
  | some a =>
    have hgives := hk a rfl
    cases hb : f a with
    | none =>
      rw [hb] at hgives
      obtain ⟨fault, hgives⟩ := hgives
      rw [Option.bind_some, hb]
      exact ⟨fault, (run_bind h).trans hgives⟩
    | some b =>
      rw [hb] at hgives
      rw [Option.bind_some, hb]
      exact (run_bind h).trans hgives

theorem map {f : α → β} (h : Gives r text a? rest) :
    Gives (do return f (← r)) text (a?.map f) rest := by
  rw [Option.map_eq_bind]
  exact h.bind fun _ _ => rfl

/-- Two readers that do the same give the same. -/
theorem congr {r' : Reader α} {text' : Text} (heq : r text = r' text')
    (h : Gives r' text' a? rest) :
    Gives r text a? rest := by
  unfold Gives at h ⊢
  rwa [heq]

end Gives

theorem next_of_blanks (h : Blanks text (c :: rest)) (hc : isBlank c = false) :
    next text = .ok (some c, c :: rest) := by
  obtain ⟨blanks, hblanks, rfl⟩ := h
  rw [next, List.dropWhile_append_of_pos hblanks, List.dropWhile_cons_of_neg (by simp [hc])]
  rfl

theorem next_of_blanks_nil (h : Blanks text []) : next text = .ok (none, []) := by
  obtain ⟨blanks, hblanks, rfl⟩ := h
  rw [next, List.dropWhile_append_of_pos hblanks]
  rfl

theorem drop_cons (c : Char) (text : Text) : drop (c :: text) = .ok ((), text) := rfl

theorem bound_eq (text : Text) : bound text = .ok (text.length + 1, text) := rfl

theorem word_append (letters rest : Text) : word letters (letters ++ rest) = .ok ((), rest) := by
  induction letters with
  | nil => rfl
  | cons c letters ih =>
    rw [word, List.cons_append]
    refine (run_bind (a := c :: (letters ++ rest)) rfl).trans ?_
    simp only [if_pos]
    exact (run_bind rfl).trans ih

theorem colon_eq {start : Text} (h : Blanks start (':' :: rest)) :
    colon start = .ok ((), rest) := by
  rw [colon]
  exact run_bind (next_of_blanks h rfl)

/-! ## Strings -/

theorem four_le_size (a b c d : Char) : 4 ≤ Text.size [a, b, c, d] := by
  have ha := Char.utf8Size_pos a
  have hb := Char.utf8Size_pos b
  have hc := Char.utf8Size_pos c
  have hd := Char.utf8Size_pos d
  simp only [Text.size]
  omega

theorem fourDigits_eq {n : Nat} (h : FourDigits n text rest) : fourDigits text = .ok (n, rest) := by
  cases h with
  | digits ha hb hc hd =>
    simp only [fourDigits, List.take_succ_cons, List.take_zero, ha, hb, hc, hd]
    rw [if_neg (Nat.not_lt.mpr (four_le_size ..))]

theorem unicodeEscape_number {n : Nat} (hn : FourDigits n text rest)
    (hwhole : n < 0xD800 ∨ 0xDFFF < n) : unicodeEscape text = .ok (Char.ofNat n, rest) := by
  simp only [unicodeEscape, fourDigits_eq hn]
  rw [if_neg (by omega), if_pos (by omega)]

theorem unicodeEscape_pair {n m : Nat} {text' : Text}
    (hn : FourDigits n text ('\\' :: 'u' :: text')) (hfirst : 0xD800 ≤ n ∧ n ≤ 0xDBFF)
    (hm : FourDigits m text' rest) (hsecond : 0xDC00 ≤ m ∧ m ≤ 0xDFFF) :
    unicodeEscape text =
      .ok (Char.ofNat ((n - 0xD800) * 0x400 + (m - 0xDC00) + 0x10000), rest) := by
  simp only [unicodeEscape, fourDigits_eq hn]
  rw [if_neg (by omega), if_neg (by omega)]
  simp only [secondHalf, fourDigits_eq hm, if_pos hsecond]

/-- No escape of one letter is the `u` of an escape by number. -/
theorem letterEscape?_ne {e : Char} (h : letterEscape? e = some c) : e ≠ 'u' := by
  rintro rfl
  cases h

/-- A string is read as it is spelled, by induction on `Spells`. -/
theorem stringBody_eq {cs : Text} (h : Spells cs text rest) {steps : Nat}
    (hsteps : text.length < steps) : stringBody steps text = .ok (cs, rest) := by
  induction h generalizing steps with
  | close =>
    cases steps with
    | zero => cases hsteps
    | succ steps => rfl
  | plain hquote hslash hcontrol h ih =>
    cases steps with
    | zero => cases hsteps
    | succ steps =>
      have hrest := ih (Nat.lt_of_succ_lt_succ hsteps)
      simp [stringBody, hquote, hslash, Nat.not_lt.mpr hcontrol, hrest, Except.map]
  | @letter e c cs text rest he h ih =>
    cases steps with
    | zero => cases hsteps
    | succ steps =>
      have hu := letterEscape?_ne he
      have hrest : text.length < steps := Nat.lt_of_succ_lt (Nat.lt_of_succ_lt_succ hsteps)
      simp [stringBody, hu, he, ih hrest, Except.map]
  | @number n cs text text' rest hn hwhole h ih =>
    cases steps with
    | zero => cases hsteps
    | succ steps =>
      have hlength := hn.length_eq
      have hrest : text'.length < steps := by
        simp only [List.length_cons] at hsteps
        omega
      simp [stringBody, unicodeEscape_number hn hwhole, ih hrest, Except.map]
  | @pair n m cs text text' text'' rest hn hfirst hm hsecond h ih =>
    cases steps with
    | zero => cases hsteps
    | succ steps =>
      have hlength := hn.length_eq
      have hlength' := hm.length_eq
      have hrest : text''.length < steps := by
        simp only [List.length_cons] at hsteps hlength
        omega
      simp [stringBody, unicodeEscape_pair hn hfirst hm hsecond, ih hrest, Except.map]

theorem stringBody_error_plain (hquote : c ≠ '"') (hslash : c ≠ '\\') (hcontrol : 0x20 ≤ c.toNat)
    (h : ∀ steps, ∃ fault, stringBody steps text = .error fault) (steps : Nat) :
    ∃ fault, stringBody steps (c :: text) = .error fault := by
  cases steps with
  | zero => exact ⟨_, rfl⟩
  | succ steps =>
    obtain ⟨fault, h⟩ := h steps
    exact ⟨fault, by simp [stringBody, hquote, hslash, Nat.not_lt.mpr hcontrol, h, Except.map]⟩

theorem stringBody_error_letter {e : Char} (he : letterEscape? e = some c)
    (h : ∀ steps, ∃ fault, stringBody steps text = .error fault) (steps : Nat) :
    ∃ fault, stringBody steps ('\\' :: e :: text) = .error fault := by
  cases steps with
  | zero => exact ⟨_, rfl⟩
  | succ steps =>
    obtain ⟨fault, h⟩ := h steps
    exact ⟨fault, by simp [stringBody, letterEscape?_ne he, he, h, Except.map]⟩

theorem stringBody_error_unicode (h : unicodeEscape text = .ok (c, rest))
    (hrest : ∀ steps, ∃ fault, stringBody steps rest = .error fault) (steps : Nat) :
    ∃ fault, stringBody steps ('\\' :: 'u' :: text) = .error fault := by
  cases steps with
  | zero => exact ⟨_, rfl⟩
  | succ steps =>
    obtain ⟨fault, hrest⟩ := hrest steps
    exact ⟨fault, by simp [stringBody, h, hrest, Except.map]⟩

theorem stringBody_error_escape {fault : Fault} (h : unicodeEscape text = .error fault)
    (steps : Nat) : ∃ fault, stringBody steps ('\\' :: 'u' :: text) = .error fault := by
  cases steps with
  | zero => exact ⟨_, rfl⟩
  | succ steps => exact ⟨fault, by simp [stringBody, h]⟩

/-- The first half of a surrogate pair is refused if the second one does not follow, and so is a
second half alone. -/
theorem unicodeEscape_half {n : Nat} {text' : Text} (hn : FourDigits n text text')
    (hhalf : 0xD800 ≤ n ∧ n ≤ 0xDFFF)
    (h : n ≤ 0xDBFF → ∃ fault, secondHalf text' = .error fault) :
    ∃ fault, unicodeEscape text = .error fault := by
  simp only [unicodeEscape, fourDigits_eq hn]
  by_cases hsecond : 0xDC00 ≤ n
  · exact ⟨_, if_pos ⟨hsecond, hhalf.2⟩⟩
  · obtain ⟨fault, h⟩ := h (by omega)
    rw [if_neg (by omega), if_neg (by omega), h]
    exact ⟨fault, rfl⟩

/-- What follows the first half of a surrogate pair is the second half, or refused by
`secondHalf`. -/
theorem secondHalf_of_closes (h : Closes text rest) :
    (∃ m text' text'', text = '\\' :: 'u' :: text' ∧ FourDigits m text' text'' ∧
      (0xDC00 ≤ m ∧ m ≤ 0xDFFF) ∧ Closes text'' rest) ∨
      ∃ fault, secondHalf text = .error fault := by
  cases h with
  | close => exact .inr ⟨_, rfl⟩
  | plain _ hslash _ _ =>
    refine .inr ⟨.halfEscape, ?_⟩
    unfold secondHalf
    split
    · next heq => cases heq
    · next heq => exact absurd (List.cons.inj heq).1 hslash
    · next heq => exact absurd (List.cons.inj heq).1 hslash
    · rfl
  | letter he _ =>
    refine .inr ⟨.halfEscape, ?_⟩
    unfold secondHalf
    split
    · next heq => cases heq
    · next heq => cases heq
    · next heq => exact absurd (List.cons.inj (List.cons.inj heq).2).1 (letterEscape?_ne he)
    · rfl
  | @number m text' text'' _ hm hclosed =>
    by_cases hsecond : 0xDC00 ≤ m ∧ m ≤ 0xDFFF
    · exact .inl ⟨m, text', text'', rfl, hm, hsecond, hclosed⟩
    · exact .inr ⟨.loneSurrogate, by simp only [secondHalf, fourDigits_eq hm, if_neg hsecond]⟩

/-- **A string is read as a text, or refused**, whatever its escapes by number stand for: it is
spelled (`Spells`), or `stringBody` fails. -/
theorem spells_or_error (h : Closes text rest) :
    (∃ cs, Spells cs text rest) ∨ ∀ steps, ∃ fault, stringBody steps text = .error fault := by
  -- a pair of escapes is two rules of the grammar, so the induction is on the length
  induction hlength : text.length using Nat.strongRecOn generalizing text with
  | ind length ih =>
    subst hlength
    cases h with
    | close => exact .inl ⟨[], .close⟩
    | @plain c text _ hquote hslash hcontrol h =>
      rcases ih text.length (by simp) h rfl with ⟨cs, hcs⟩ | herror
      · exact .inl ⟨c :: cs, .plain hquote hslash hcontrol hcs⟩
      · exact .inr (stringBody_error_plain hquote hslash hcontrol herror)
    | @letter e c text _ he h =>
      rcases ih text.length (by simp only [List.length_cons]; omega) h rfl with ⟨cs, hcs⟩ | herror
      · exact .inl ⟨c :: cs, .letter he hcs⟩
      · exact .inr (stringBody_error_letter he herror)
    | @number n text text' _ hn h =>
      have hshort := hn.length_eq
      by_cases hwhole : n < 0xD800 ∨ 0xDFFF < n
      · rcases ih text'.length (by simp only [List.length_cons]; omega) h rfl with
          ⟨cs, hcs⟩ | herror
        · exact .inl ⟨_, .number hn hwhole hcs⟩
        · exact .inr (stringBody_error_unicode (unicodeEscape_number hn hwhole) herror)
      · have hhalf : 0xD800 ≤ n ∧ n ≤ 0xDFFF := by omega
        rcases secondHalf_of_closes h with ⟨m, first, behind, rfl, hm, hsecond, hclosed⟩ | herror
        · by_cases hfirst : n ≤ 0xDBFF
          · have hpair := unicodeEscape_pair hn ⟨hhalf.1, hfirst⟩ hm hsecond
            have hshort' := hm.length_eq
            rcases ih behind.length (by simp only [List.length_cons] at hshort ⊢; omega) hclosed
              rfl with ⟨cs, hcs⟩ | herror
            · exact .inl ⟨_, .pair hn ⟨hhalf.1, hfirst⟩ hm hsecond hcs⟩
            · exact .inr (stringBody_error_unicode hpair herror)
          · obtain ⟨fault, herror⟩ := unicodeEscape_half hn hhalf fun hle => absurd hle hfirst
            exact .inr (stringBody_error_escape herror)
        · obtain ⟨fault, herror⟩ := unicodeEscape_half hn hhalf fun _ => herror
          exact .inr (stringBody_error_escape herror)

/-- A string is read by `quotedString` as the text that it spells, and refused if it spells none. -/
theorem gives_quotedString {t : Option Text} (h : Quotes t text rest) :
    Gives quotedString ('"' :: text) t rest := by
  cases h with
  | text h => exact stringBody_eq h (Nat.lt_succ_self _)
  | half h hnone =>
    rcases spells_or_error h with ⟨cs, hcs⟩ | herror
    · exact absurd hcs (hnone cs)
    · exact herror _

/-! ## Numbers -/

/-- Digits are taken up to the first character that is none. -/
theorem digitsHere_append {digits : Text} (h : ∀ c ∈ digits, c.isDigit)
    (hrest : ∀ c, rest.head? = some c → c.isDigit = false) :
    digitsHere (digits ++ rest) = .ok (digits, rest) := by
  have hend : rest.takeWhile Char.isDigit = [] ∧ rest.dropWhile Char.isDigit = rest := by
    cases rest with
    | nil => exact ⟨rfl, rfl⟩
    | cons c rest => simp [hrest c rfl]
  rw [digitsHere, List.takeWhile_append_of_pos h, List.dropWhile_append_of_pos h, hend.1, hend.2,
    List.append_nil]

/-- A reader that only passes on what was computed leaves the text as it is. -/
theorem run_lift (x : Except Fault α) (text : Text) :
    (liftM x : Reader α) text = x.map (·, text) := by
  cases x <;> rfl

/-- The digits of an exponent, behind its sign. It is a part of `exponentDigits`, named for its
lemmas. -/
def exponentBehind (isNegative : Bool) : Reader Int := do
  match ← get with
  | [] => fail .endInValue
  | c :: _ =>
    if !c.isDigit then fail .badNumber
    let e := natOf (← digitsHere)
    return if isNegative then -(e : Int) else e

theorem exponentDigits_dash (c : Char) (text : Text) :
    exponentDigits (c :: '-' :: text) = exponentBehind true text := rfl

theorem exponentDigits_plus (c : Char) (text : Text) :
    exponentDigits (c :: '+' :: text) = exponentBehind false text := rfl

/-- A digit is no sign. -/
theorem beq_plus_of_isDigit {d : Char} (hd : d.isDigit) : (some d == some '+') = false := by
  refine beq_false_of_ne ?_
  rintro ⟨⟩
  cases hd

theorem beq_dash_of_isDigit {d : Char} (hd : d.isDigit) : (some d == some '-') = false := by
  refine beq_false_of_ne ?_
  rintro ⟨⟩
  cases hd

theorem exponentDigits_digit {d : Char} (hd : d.isDigit) (c : Char) (text : Text) :
    exponentDigits (c :: d :: text) = exponentBehind false (d :: text) := by
  rw [exponentDigits]
  refine (run_bind (drop_cons _ _)).trans ?_
  refine (run_bind (r := get) rfl).trans ?_
  simp only [List.head?_cons, beq_plus_of_isDigit hd, beq_dash_of_isDigit hd, Bool.or_self,
    Bool.false_eq_true, if_false]
  rfl

theorem exponentBehind_digits {digits : Text} (isNegative : Bool) (h : IsDigits digits)
    (hrest : EndsNumber rest) : exponentBehind isNegative (digits ++ rest) =
      .ok (if isNegative then -(natOf digits : Int) else natOf digits, rest) := by
  obtain ⟨hne, hdigits⟩ := h
  have hrun := digitsHere_append hdigits fun c hc => (hrest c hc).1
  obtain ⟨d, digits, rfl⟩ := List.exists_cons_of_ne_nil hne
  have hd := hdigits d List.mem_cons_self
  rw [exponentBehind]
  refine (run_bind rfl).trans ?_
  simp only [hd, Bool.not_true, Bool.false_eq_true, if_false, List.cons_append]
  exact run_bind hrun

/-- An exponent is read as the number that it is (`Exponent.value`). -/
theorem exponentDigits_text (e : Exponent) (hrest : EndsNumber rest) :
    exponentDigits (e.text ++ rest) = .ok (e.value, rest) := by
  obtain ⟨mark, sign, digits, -, hsign, hdigits⟩ := e
  cases sign with
  | none =>
    have h := exponentBehind_digits false hdigits hrest
    obtain ⟨d, digits, rfl⟩ := List.exists_cons_of_ne_nil hdigits.1
    exact (exponentDigits_digit (hdigits.2 d List.mem_cons_self) mark _).trans h
  | some s =>
    rcases hsign s rfl with rfl | rfl
    · exact (exponentDigits_plus mark _).trans (exponentBehind_digits false hdigits hrest)
    · exact (exponentDigits_dash mark _).trans (exponentBehind_digits true hdigits hrest)

/-- An exponent is added to the power of ten, as `Numeral.scaled` says. -/
theorem exponentRest_text (isNegative : Bool) (digits : Nat) (power : Int) (e : Option Exponent)
    (hrest : EndsNumber rest) :
    exponentRest isNegative digits power (e.elim [] Exponent.text ++ rest) =
      (Numeral.scaled isNegative digits power e).map (·, rest) := by
  rw [exponentRest]
  refine (run_bind (r := get) rfl).trans ?_
  cases e with
  | none =>
    have hnone : ∀ c, rest.head? = some c → c ≠ 'e' ∧ c ≠ 'E' := fun c hc => (hrest c hc).2.2
    simp only [Option.elim_none, List.nil_append]
    generalize rest.head? = head at hnone
    split
    · exact absurd rfl (hnone _ rfl).1
    · exact absurd rfl (hnone _ rfl).2
    · exact run_lift _ _
  | some e =>
    have hdigits := exponentDigits_text e hrest
    have hvalue : (do
        let e ← exponentDigits
        if 0x80000000 ≤ e ∧ digits ≠ 0 then
          fail .numberTooLarge
        else if 0x80000000 ≤ e.natAbs then
          return .float isNegative Decimal.Binary64.zero
        else
          floatOf isNegative digits (power + e) : Reader Number) (e.text ++ rest) =
          (Numeral.scaled isNegative digits power (some e)).map (·, rest) := by
      refine (run_bind hdigits).trans ?_
      simp only [Numeral.scaled]
      split
      · rfl
      · split
        · rfl
        · exact run_lift _ _
    have hhead : (e.text ++ rest).head? = some e.mark := rfl
    simp only [Option.elim_some, hhead]
    rcases e.isMark with hmark | hmark <;> rw [hmark] <;> exact hvalue

/-- Neither a digit nor a point stands at an exponent or where a number ends. -/
theorem head_exponent (e : Option Exponent) (hrest : EndsNumber rest) (c : Char)
    (hc : (e.elim [] Exponent.text ++ rest).head? = some c) : c.isDigit = false ∧ c ≠ '.' := by
  cases e with
  | none => exact ⟨(hrest c hc).1, (hrest c hc).2.1⟩
  | some e =>
    obtain rfl : e.mark = c := Option.some.inj hc
    rcases e.isMark with hmark | hmark <;> rw [hmark] <;> exact ⟨rfl, by decide⟩

/-- A fraction is read behind the digits before it, and an exponent behind it. -/
theorem fractionRest_text (isNegative : Bool) (whole dropped : Nat) {digits : Text}
    (hdigits : IsDigits digits) (e : Option Exponent) (hrest : EndsNumber rest) :
    fractionRest isNegative whole dropped ('.' :: (digits ++ (e.elim [] Exponent.text ++ rest))) =
      (Numeral.scaled isNegative (significand whole digits).1
        ((dropped : Int) - (digits.length - (significand whole digits).2 : Nat)) e).map
          (·, rest) := by
  have hrun := digitsHere_append hdigits.2 fun c hc => (head_exponent e hrest c hc).1
  have hlength : 0 < digits.length := List.length_pos_iff.mpr hdigits.1
  have hused : (decide (digits.length - (significand whole digits).2 = 0) &&
      decide ((significand whole digits).2 = 0)) = false := by
    simp only [Bool.and_eq_false_iff, decide_eq_false_iff_not]
    omega
  rw [fractionRest]
  refine (run_bind (drop_cons _ _)).trans ?_
  refine (run_bind hrun).trans ?_
  simp only [hused, Bool.false_eq_true, if_false]
  exact exponentRest_text _ _ _ e hrest

/-- No digit follows a zero at the start of a number. -/
theorem isDigit_behind_zero {digits : Text}
    (hzero : (c :: digits).head? = some '0' → c :: digits = ['0'])
    (hend : ∀ d, text.head? = some d → d.isDigit = false) :
    (c = '0' && ((digits ++ text).head?.map Char.isDigit).getD false) = false := by
  by_cases hc : c = '0'
  · obtain ⟨-, rfl⟩ := List.cons.inj (hzero (congrArg some hc))
    cases text with
    | nil => simp
    | cons d text => simp [hend d rfl]
  · simp [hc]

/-- No digit stands behind the digits that a number starts with. -/
theorem isDigit_tail (n : Numeral) (hrest : EndsNumber rest) (c : Char)
    (hc : (n.tail ++ rest).head? = some c) : c.isDigit = false := by
  rw [Numeral.tail, List.append_assoc] at hc
  cases hfraction : n.fraction with
  | none =>
    rw [hfraction] at hc
    exact (head_exponent n.exponent hrest c hc).1
  | some digits =>
    rw [hfraction] at hc
    obtain rfl : '.' = c := Option.some.inj hc
    rfl

/-- A number behind the digits that it starts with. It is a part of `unsigned`, named for its
lemmas. -/
def unsignedBehind (isNegative : Bool) (whole dropped : Nat) : Reader Number := do
  match (← get).head? with
  | some '.' => fractionRest isNegative whole dropped
  | some 'e' | some 'E' => exponentRest isNegative whole dropped
  | _ =>
    if dropped ≠ 0 then
      floatOf isNegative whole dropped
    else if !isNegative then
      return .natural whole
    else if whole = 0 ∨ 0x8000000000000000 < whole then
      floatOf true whole 0
    else
      return .negative whole

theorem unsigned_digits (isNegative : Bool) {whole : Text} (hwhole : IsDigits whole)
    (hzero : whole.head? = some '0' → whole = ['0'])
    (hend : ∀ c, text.head? = some c → c.isDigit = false) :
    unsigned isNegative (whole ++ text) =
      unsignedBehind isNegative (significand 0 whole).1 (significand 0 whole).2 text := by
  obtain ⟨hne, hdigits⟩ := hwhole
  have hrun := digitsHere_append hdigits hend
  obtain ⟨d, digits, rfl⟩ := List.exists_cons_of_ne_nil hne
  have hd := hdigits d List.mem_cons_self
  rw [unsigned]
  refine (run_bind (r := get) rfl).trans ?_
  simp only [List.cons_append, hd, isDigit_behind_zero hzero hend, Bool.not_true,
    Bool.false_eq_true, if_false]
  exact run_bind hrun

/-- Behind the digits that a number starts with, there is a fraction, an exponent or the end, which
is the `tail`. -/
theorem unsignedBehind_tail (n : Numeral) (hrest : EndsNumber rest) :
    unsignedBehind n.isNegative (significand 0 n.whole).1 (significand 0 n.whole).2
      (n.tail ++ rest) = n.number.map (·, rest) := by
  obtain ⟨isNegative, whole, fraction, exponent, -, -, hfraction⟩ := n
  rw [unsignedBehind, Numeral.tail, Numeral.number]
  refine (run_bind (r := get) rfl).trans ?_
  cases fraction with
  | some digits =>
    simp only [Option.elim_some, List.append_assoc]
    exact fractionRest_text _ _ _ (hfraction digits rfl) exponent hrest
  | none =>
    cases exponent with
    | some e =>
      have hexponent := exponentRest_text isNegative (significand 0 whole).1
        ((significand 0 whole).2 : Int) (some e) hrest
      have hhead : ((some e).elim [] Exponent.text ++ rest).head? = some e.mark := rfl
      simp only [Option.elim_none, List.nil_append, hhead]
      rcases e.isMark with hmark | hmark <;> rw [hmark] <;> exact hexponent
    | none =>
      have hnone : ∀ c, rest.head? = some c → c ≠ '.' ∧ c ≠ 'e' ∧ c ≠ 'E' :=
        fun c hc => (hrest c hc).2
      simp only [Option.elim_none, List.nil_append]
      generalize rest.head? = head at hnone
      split
      · exact absurd rfl (hnone _ rfl).1
      · exact absurd rfl (hnone _ rfl).2.1
      · exact absurd rfl (hnone _ rfl).2.2
      · split
        · exact run_lift _ _
        · split
          · rfl
          · split
            · exact run_lift _ _
            · rfl

/-- **A number is read** as the number that is kept of it (`Numeral.number`). -/
theorem numberHere_text (n : Numeral) (hrest : EndsNumber rest) :
    numberHere (n.text ++ rest) = n.number.map (·, rest) := by
  have hunsigned : unsigned n.isNegative (n.whole ++ (n.tail ++ rest)) = n.number.map (·, rest) :=
    (unsigned_digits n.isNegative n.isWhole n.isZero (isDigit_tail n hrest)).trans
      (unsignedBehind_tail n hrest)
  rw [numberHere, Numeral.text, List.append_assoc, List.append_assoc]
  refine (run_bind (r := get) rfl).trans ?_
  cases hsign : n.isNegative with
  | true =>
    rw [hsign] at hunsigned
    exact hunsigned
  | false =>
    obtain ⟨d, digits, hwhole⟩ := List.exists_cons_of_ne_nil n.isWhole.1
    have hdash := beq_dash_of_isDigit (n.isWhole.2 d (by rw [hwhole]; exact List.mem_cons_self))
    rw [hsign, hwhole] at hunsigned
    simp only [hwhole, List.cons_append, Bool.false_eq_true, if_false, List.nil_append,
      List.head?_cons, hdash]
    exact hunsigned

/-! ## Values without parts -/

theorem gives_scalar_string {t : Option Text} {start : Text} (hblanks : Blanks start ('"' :: text))
    (h : Quotes t text rest) : Gives scalar start (t.map fun t => some (.string t)) rest := by
  have hstring := (gives_quotedString h).map (f := fun t => some (Json.string t))
  refine hstring.congr ?_
  rw [scalar]
  exact run_bind (next_of_blanks hblanks rfl)

/-- A number starts with a dash or a digit, which is no blank. -/
theorem next_number {start : Text} (n : Numeral) (hblanks : Blanks start (n.text ++ rest)) :
    ∃ c, next start = .ok (some c, n.text ++ rest) ∧ (c = '-' ∨ c.isDigit) := by
  obtain ⟨c, behind, htext, hc⟩ := n.exists_head
  have hblank : isBlank c = false := hc.elim (fun hc => hc ▸ rfl) isBlank_of_isDigit
  rw [htext, List.cons_append] at hblanks ⊢
  exact ⟨c, next_of_blanks hblanks hblank, hc⟩

theorem gives_scalar_number {start : Text} (n : Numeral) (hrest : EndsNumber rest)
    (hblanks : Blanks start (n.text ++ rest)) :
    Gives scalar start (n.number.toOption.map fun x => some (.number x)) rest := by
  have hnumber : Gives numberHere (n.text ++ rest) n.number.toOption rest := by
    have hread := numberHere_text n hrest
    cases hvalue : n.number with
    | ok x =>
      rw [hvalue] at hread
      exact hread
    | error fault =>
      rw [hvalue] at hread
      exact ⟨fault, hread⟩
  refine (hnumber.map (f := fun x => some (Json.number x))).congr ?_
  obtain ⟨c, hnext, hc⟩ := next_number n hblanks
  rw [scalar]
  refine (run_bind hnext).trans ?_
  generalize hhead : some c = head
  split <;> cases hhead
  -- neither a dash nor a digit starts anything else
  any_goals rcases hc with hc | hc <;> cases hc
  rw [if_pos (by simpa using hc)]

/-- One of the three words is read as the value that it stands for. -/
theorem scalar_word {start letters : Text} {j : Json}
    (hblanks : Blanks start (c :: (letters ++ rest)))
    (h : c = 'n' ∧ letters = "ull".toList ∧ j = .null ∨
      c = 't' ∧ letters = "rue".toList ∧ j = .bool true ∨
      c = 'f' ∧ letters = "alse".toList ∧ j = .bool false) :
    scalar start = .ok (some j, rest) := by
  rw [scalar]
  rcases h with ⟨rfl, rfl, rfl⟩ | ⟨rfl, rfl, rfl⟩ | ⟨rfl, rfl, rfl⟩
  all_goals
    refine (run_bind (next_of_blanks hblanks rfl)).trans ?_
    refine (run_bind (drop_cons _ _)).trans ?_
    exact run_bind (word_append _ _)

/-- A bracket is left to the reader of a list or an object. -/
theorem scalar_bracket {start : Text} (hblanks : Blanks start (c :: text))
    (hc : c = '[' ∨ c = '{') : scalar start = .ok (none, c :: text) := by
  rw [scalar]
  rcases hc with rfl | rfl
  · exact run_bind (next_of_blanks hblanks rfl)
  · exact run_bind (next_of_blanks hblanks rfl)

end Reader

end DotJs.Json
