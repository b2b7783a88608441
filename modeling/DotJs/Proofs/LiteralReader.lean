import DotJs.Proofs.LiteralGrammar

/-!
# The reader of string literals

`StringLiteral.readBody` is a machine that takes one character after the other. This module says
that it reads what the rules of the grammar allow, no less and no more.

* `readBody_part` and `readBody_of_body` say that it reads whatever the rules allow, to the
  elements that they give;
* `Progress.Admits` says what may stand in front of the closing quote for each place where the
  machine can stand, and `body_of_readBody` that the machine reads nothing else.

Together they are `readBody_eq_some_iff`. As the machine has one result, a body is read in one
way only (`Body.unique`), and a literal has one value (`IsLiteral.unique`).
-/

namespace DotJs.StringLiteral

/-! ## Reading what the rules allow -/

variable {q : QuoteStyle} {t behind tail : Text} {c : Char} {n : Nat}

/-- A result of the reader behind `k` characters that gave some elements: the elements come in
front, and the count of characters read grows by `k`. -/
def ahead (es : List Element) (k : Nat) (r : Option (List Element × Nat × Text)) :
    Option (List Element × Nat × Text) :=
  r.map fun (es', n, rest) => (es ++ es', n + k, rest)

/-- Results are passed on one after the other, so steps of one character are put together to one
step of several. -/
theorem ahead_ahead (es es' : List Element) (k k' : Nat)
    (r : Option (List Element × Nat × Text)) :
    ahead es k (ahead es' k' r) = ahead (es ++ es') (k' + k) r := by
  cases r with
  | none => rfl
  | some r => simp only [ahead, Option.map_some, List.append_assoc, Nat.add_assoc]

/-- A character that does not close the literal takes the reader one `step` further. Behind a
backslash a quote does not close it either. -/
theorem readBody_cons {quote : Char} {p p' : Progress} {es : List Element}
    (hquote : c ≠ quote ∨ p = .escape) (hstep : p.step c = some (p', es)) :
    readBody quote p (c :: t) = ahead es 1 (readBody quote p' t) := by
  have hopen : ¬(c = quote ∧ p ≠ .escape) := by
    rintro ⟨rfl, hp⟩
    exact hquote.elim (fun h => h rfl) hp
  rw [readBody, if_neg hopen, hstep]
  rfl

/-! The digits of an escape are neither quotes nor any of the characters that steer the reader. -/

theorem hexDigit?_quote (q : QuoteStyle) : hexDigit? q.char = none := by
  cases q <;> decide

theorem octalDigit?_quote (q : QuoteStyle) : octalDigit? q.char = none := by
  cases q <;> decide

/-- A digit is no character that is none. The quotes are no digits by `hexDigit?_quote` and
`octalDigit?_quote`. -/
theorem ne_of_digit {digit? : Char → Option Nat} {c c' : Char} {d : Nat} (hc : digit? c = some d)
    (hc' : digit? c' = none) : c ≠ c' := by
  rintro rfl
  rw [hc] at hc'
  cases hc'

/-- What holds of the first character of a text and of the one behind it holds of the first of
both. -/
theorem head?_append {p : Char → Prop} (hbehind : ∀ c, behind.head? = some c → p c)
    (htail : ∀ c, tail.head? = some c → p c) : ∀ c, (behind ++ tail).head? = some c → p c := by
  cases behind with
  | nil => exact htail
  | cons b behind => exact hbehind

/-- The last digit of a number with more than one, and the number before it. -/
theorem HexDigits.of_concat (h : HexDigits (t ++ [c]) n) (ht : t ≠ []) :
    ∃ m d, HexDigits t m ∧ hexDigit? c = some d ∧ n = m * 16 + d := by
  generalize heq : t ++ [c] = u at h
  cases h with
  | one hc =>
    cases t with
    | nil => exact absurd rfl ht
    | cons a t => simp at heq
  | @more t' m c' d ht' hc' =>
    obtain ⟨rfl, hlast⟩ := List.append_inj' heq rfl
    obtain rfl := List.head_eq_of_cons_eq hlast
    exact ⟨m, d, ht', hc', rfl⟩

/-- A number starts with a digit, whereas `HexDigits` tells of its last one. -/
theorem HexDigits.head (h : HexDigits t n) : ∃ c d rest, t = c :: rest ∧ hexDigit? c = some d := by
  induction h with
  | @one c d hc => exact ⟨c, d, [], rfl, hc⟩
  | more _ _ ih =>
    obtain ⟨c, d, rest, rfl, hc⟩ := ih
    exact ⟨c, d, _, List.cons_append, hc⟩

/-! ### Escapes that end where the next character is none of theirs -/

/-- The reader leaves an octal escape (`.octal`) at a character that is no octal digit, and has not
yet taken it. -/
theorem readBody_octal {number more : Nat}
    (hbehind : ∀ c, behind.head? = some c → octalDigit? c = none) :
    readBody q.char (.octal number more) (behind ++ q.char :: tail) =
      ahead [.char (Char.ofNat number)] 0 (readBody q.char .plain (behind ++ q.char :: tail)) := by
  have hhead : ∀ c, (behind ++ q.char :: tail).head? = some c → octalDigit? c = none := by
    refine head?_append hbehind ?_
    rintro c ⟨⟩
    exact octalDigit?_quote q
  generalize behind ++ q.char :: tail = u at hhead ⊢
  cases u with
  | nil => rfl
  | cons c u =>
    have hc := hhead c rfl
    by_cases hquote : c = q.char
    · rw [readBody, readBody, if_pos ⟨hquote, nofun⟩, if_pos ⟨hquote, nofun⟩]
      rfl
    · rw [readBody, readBody, if_neg (fun h => hquote h.1), if_neg (fun h => hquote h.1)]
      simp only [Progress.step]
      rw [hc]
      cases Progress.afterPlain c with
      | none => rfl
      | some step =>
        obtain ⟨p, es⟩ := step
        cases hr : readBody q.char p u with
        | none => simp [hr, ahead]
        | some r => simp [hr, ahead]

/-- The reader leaves a line that ended in a carriage return (`.continued`) at a character that is
no line feed, and has not yet taken it. -/
theorem readBody_continued (hbehind : behind.head? ≠ some '\n') :
    readBody q.char .continued (behind ++ q.char :: tail) =
      readBody q.char .plain (behind ++ q.char :: tail) := by
  have hhead : ∀ c, (behind ++ q.char :: tail).head? = some c → c ≠ '\n' := by
    refine head?_append ?_ ?_
    · rintro c hc rfl
      exact hbehind hc
    · rintro c ⟨⟩
      cases q <;> decide
  generalize behind ++ q.char :: tail = u at hhead ⊢
  cases u with
  | nil => rfl
  | cons c u =>
    by_cases hquote : c = q.char
    · rw [readBody, readBody, if_pos ⟨hquote, nofun⟩, if_pos ⟨hquote, nofun⟩]
      rfl
    · rw [readBody, readBody, if_neg (fun h => hquote h.1), if_neg (fun h => hquote h.1)]
      simp only [Progress.step]
      rw [if_neg (hhead c rfl)]

/-! ### Steps within an escape -/

theorem hexDigit?_lt {d : Nat} (hc : hexDigit? c = some d) : d < 16 := by
  simp only [hexDigit?] at hc
  split at hc
  · next h =>
    obtain rfl := Option.some.inj hc
    have : c.toNat ≤ '9'.toNat := h.2
    have : '9'.toNat - '0'.toNat = 9 := rfl
    omega
  · split at hc
    · next h =>
      obtain rfl := Option.some.inj hc
      have : c.toNat ≤ 'f'.toNat := h.2
      have : 'f'.toNat - 'a'.toNat = 5 := rfl
      omega
    · split at hc
      · next h =>
        obtain rfl := Option.some.inj hc
        have : c.toNat ≤ 'F'.toNat := h.2
        have : 'F'.toNat - 'A'.toNat = 5 := rfl
        omega
      · cases hc

theorem step_plain_backslash : Progress.step '\\' .plain = some (.escape, []) := rfl

theorem step_escape_return : Progress.step '\r' .escape = some (.continued, []) := rfl

theorem step_escape_x : Progress.step 'x' .escape = some (.hex 0 2, []) := rfl

theorem step_escape_u : Progress.step 'u' .escape = some (.unicode, []) := rfl

theorem step_unicode_brace : Progress.step '\x7b' .unicode = some (.braced 0 false, []) := rfl

theorem step_continued_feed : Progress.step '\n' .continued = some (.plain, []) := rfl

theorem step_escape_octal {d : Nat} (hc : octalDigit? c = some d) :
    Progress.step c .escape = some (.octal d (if d ≤ 3 then 2 else 1), []) := by
  have hlf : ¬(c = '\n' ∨ c = '\u2028' ∨ c = '\u2029') := by
    rintro (rfl | rfl | rfl) <;> cases hc
  rw [Progress.step, Progress.afterBackslash, if_neg hlf, if_neg (ne_of_digit hc rfl),
    if_neg (ne_of_digit hc rfl), if_neg (ne_of_digit hc rfl), hc]

theorem step_octal_more {number more d : Nat} (hc : octalDigit? c = some d) (hmore : 2 ≤ more) :
    Progress.step c (.octal number more) = some (.octal (number * 8 + d) (more - 1), []) := by
  simp only [Progress.step, hc]
  rw [if_neg (Nat.not_le.mpr hmore)]

theorem step_octal_last {number d : Nat} (hc : octalDigit? c = some d) :
    Progress.step c (.octal number 1) =
      some (.plain, [.char (Char.ofNat (number * 8 + d))]) := by
  simp only [Progress.step, hc]
  rw [if_pos (Nat.le_refl 1)]

theorem step_hex {number missing d : Nat} (hc : hexDigit? c = some d) (hmissing : 0 < missing) :
    Progress.step c (.hex number (missing + 1)) = some (.hex (number * 16 + d) missing, []) := by
  simp only [Progress.step, Progress.afterHex, hc]
  rw [if_neg (by omega), Nat.add_sub_cancel]

theorem step_hex_last {number d : Nat} {e : Element} (hc : hexDigit? c = some d)
    (he : Element.ofNat? (number * 16 + d) true = some e) :
    Progress.step c (.hex number 1) = some (.plain, [e]) := by
  simp only [Progress.step, Progress.afterHex, hc]
  rw [if_pos (Nat.le_refl 1), he, Option.map_some]

theorem step_braced {number d : Nat} {started : Bool} (hc : hexDigit? c = some d)
    (hnumber : number * 16 + d < 0x110000) :
    Progress.step c (.braced number started) = some (.braced (number * 16 + d) true, []) := by
  simp only [Progress.step, Progress.afterBraced, hc]
  rw [if_neg (ne_of_digit hc rfl), if_pos hnumber]

/-- The first digit behind `\u` opens an escape of four digits, as if the reader had stood at `.hex
0 4` all along. -/
theorem step_unicode {d : Nat} (hc : hexDigit? c = some d) :
    Progress.step c .unicode = Progress.step c (.hex 0 4) := by
  simp only [Progress.step]
  rw [if_neg (ne_of_digit hc rfl)]

/-! ### One part at a time -/

/-- The digits of an octal escape, read behind the backslash. There is one case for each rule of
`OctalDigits`. -/
theorem readBody_octalDigits (ht : OctalDigits t behind n) :
    readBody q.char .escape (t ++ (behind ++ q.char :: tail)) =
      ahead [.char (Char.ofNat n)] t.length
        (readBody q.char .plain (behind ++ q.char :: tail)) := by
  cases ht with
  | @one a _ _ ha hbehind =>
    rw [List.cons_append, readBody_cons (.inr rfl) (step_escape_octal ha), List.nil_append,
      readBody_octal hbehind, ahead_ahead]
    rfl
  | @two a b x y _ ha hx hb hbehind =>
    rw [List.cons_append, readBody_cons (.inr rfl) (step_escape_octal ha), if_pos hx,
      List.cons_append, readBody_cons (.inl (ne_of_digit hb (octalDigit?_quote q)))
        (step_octal_more hb (Nat.le_refl 2)), List.nil_append, readBody_octal hbehind,
      ahead_ahead, ahead_ahead]
    rfl
  | @twoHigh a b x y _ ha hx hb =>
    rw [List.cons_append, readBody_cons (.inr rfl) (step_escape_octal ha),
      if_neg (Nat.not_le.mpr hx), List.cons_append,
      readBody_cons (.inl (ne_of_digit hb (octalDigit?_quote q))) (step_octal_last hb),
      ahead_ahead]
    rfl
  | @three a b c x y z _ ha hx hb hc =>
    rw [List.cons_append, readBody_cons (.inr rfl) (step_escape_octal ha), if_pos hx,
      List.cons_append, readBody_cons (.inl (ne_of_digit hb (octalDigit?_quote q)))
        (step_octal_more hb (Nat.le_refl 2)), List.cons_append,
      readBody_cons (.inl (ne_of_digit hc (octalDigit?_quote q))) (step_octal_last hc),
      ahead_ahead, ahead_ahead]
    rfl

/-- The digits of an escape of fixed length, but for the last one, which makes an element of the
number. -/
theorem readBody_hexDigits (ht : HexDigits t n) {missing : Nat} (hmissing : 0 < missing) :
    readBody q.char (.hex 0 (missing + t.length)) (t ++ tail) =
      ahead [] t.length (readBody q.char (.hex n missing) tail) := by
  induction ht generalizing tail missing with
  | @one c d hc =>
    rw [List.length_singleton, List.cons_append,
      readBody_cons (.inl (ne_of_digit hc (hexDigit?_quote q))) (step_hex hc hmissing),
      Nat.zero_mul, Nat.zero_add]
    rfl
  | @more t n c d ht hc ih =>
    have hlength : missing + (t ++ [c]).length = missing + 1 + t.length := by
      rw [List.length_append, List.length_singleton]
      omega
    rw [hlength, List.append_assoc, ih (Nat.succ_pos missing), List.cons_append,
      readBody_cons (.inl (ne_of_digit hc (hexDigit?_quote q))) (step_hex hc hmissing),
      ahead_ahead, List.length_append, Nat.add_comm t.length]
    rfl

/-- The digits of a braced escape, whose number may not grow beyond the last code point. -/
theorem readBody_bracedDigits (ht : HexDigits t n) (hn : n < 0x110000) :
    readBody q.char (.braced 0 false) (t ++ tail) =
      ahead [] t.length (readBody q.char (.braced n true) tail) := by
  induction ht generalizing tail with
  | @one c d hc =>
    have hstep : Progress.step c (.braced 0 false) = some (.braced (0 * 16 + d) true, []) :=
      step_braced hc (by rwa [Nat.zero_mul, Nat.zero_add])
    rw [List.cons_append, readBody_cons (.inl (ne_of_digit hc (hexDigit?_quote q))) hstep,
      Nat.zero_mul, Nat.zero_add]
    rfl
  | @more t n c d ht hc ih =>
    rw [List.append_assoc, ih (by omega), List.cons_append,
      readBody_cons (.inl (ne_of_digit hc (hexDigit?_quote q))) (step_braced hc hn), ahead_ahead,
      List.length_append, Nat.add_comm t.length]
    rfl

/-- An escape of two digits such as `\x41`, read behind the backslash. -/
theorem readBody_hex {a b : Char} {x y : Nat} (ha : hexDigit? a = some x)
    (hb : hexDigit? b = some y) :
    readBody q.char .escape ('x' :: a :: b :: tail) =
      ahead [.char (Char.ofNat (x * 16 + y))] 3 (readBody q.char .plain tail) := by
  have hsmall : x * 16 + y < 0xD800 := by
    have hx := hexDigit?_lt ha
    have hy := hexDigit?_lt hb
    omega
  have hfirst : Progress.step a (.hex 0 2) = some (.hex (0 * 16 + x) 1, []) :=
    step_hex ha Nat.one_pos
  rw [readBody_cons (.inr rfl) step_escape_x,
    readBody_cons (.inl (ne_of_digit ha (hexDigit?_quote q))) hfirst, Nat.zero_mul, Nat.zero_add,
    readBody_cons (.inl (ne_of_digit hb (hexDigit?_quote q)))
      (step_hex_last hb (if_pos (.inl hsmall))), ahead_ahead, ahead_ahead]
  rfl

/-- An escape of four digits such as `\u0041`, read behind the backslash. -/
theorem readBody_unicode {a b c d : Char} {e : Element} (hdigits : HexDigits [a, b, c, d] n)
    (he : Element.ofNat? n true = some e) :
    readBody q.char .escape ('u' :: a :: b :: c :: d :: tail) =
      ahead [e] 5 (readBody q.char .plain tail) := by
  obtain ⟨m, y, hthree, hd, rfl⟩ := HexDigits.of_concat (t := [a, b, c]) hdigits nofun
  -- the first digit is read the same whether or not a brace could have stood there
  have hopen : readBody q.char .unicode ([a, b, c] ++ d :: tail) =
      readBody q.char (.hex 0 (1 + [a, b, c].length)) ([a, b, c] ++ d :: tail) := by
    obtain ⟨_, x, _, heq, ha⟩ := hthree.head
    obtain ⟨rfl, -⟩ := List.cons.inj heq
    have hquote := ne_of_digit ha (hexDigit?_quote q)
    have hfirst : Progress.step a (.hex 0 4) = some (.hex (0 * 16 + x) 3, []) :=
      step_hex ha (Nat.succ_pos 2)
    rw [List.cons_append, readBody_cons (.inl hquote) ((step_unicode ha).trans hfirst)]
    exact (readBody_cons (.inl hquote) hfirst).symm
  have htail : a :: b :: c :: d :: tail = [a, b, c] ++ d :: tail := rfl
  rw [readBody_cons (.inr rfl) step_escape_u, htail, hopen,
    readBody_hexDigits hthree Nat.one_pos,
    readBody_cons (.inl (ne_of_digit hd (hexDigit?_quote q))) (step_hex_last hd he), ahead_ahead,
    ahead_ahead]
  rfl

/-- An escape in braces, read behind the backslash: three characters besides its digits. -/
theorem readBody_braced {e : Element} (hdigits : HexDigits t n) (hn : n < 0x110000)
    (he : Element.ofNat? n false = some e) :
    readBody q.char .escape ('u' :: '\x7b' :: (t ++ '\x7d' :: tail)) =
      ahead [e] (t.length + 3) (readBody q.char .plain tail) := by
  have hopen : '\x7b' ≠ q.char := by cases q <;> decide
  have hclose : '\x7d' ≠ q.char := by cases q <;> decide
  have hstep : Progress.step '\x7d' (.braced n true) = some (.plain, [e]) := by
    simp [Progress.step, Progress.afterBraced, he]
  rw [readBody_cons (.inr rfl) step_escape_u, readBody_cons (.inl hopen) step_unicode_brace,
    readBody_bracedDigits hdigits hn, readBody_cons (.inl hclose) hstep, ahead_ahead, ahead_ahead,
    ahead_ahead, Nat.add_comm 1]
  rfl

/-- The reader takes a part as a whole, with one case for each rule of `Part`. What stands behind it
goes up to a closing quote, at which an escape that looks ahead ends. -/
theorem readBody_part {es : List Element} (hpart : Part q t behind es) :
    readBody q.char .plain (t ++ (behind ++ q.char :: tail)) =
      ahead es t.length (readBody q.char .plain (behind ++ q.char :: tail)) := by
  -- what the reader does first in every case but that of a plain character
  have hopen := readBody_cons (t := t.tail ++ (behind ++ q.char :: tail))
    (.inl q.backslash_ne_char) step_plain_backslash
  cases hpart with
  | @plain c _ hquote hescape hlf hcr =>
    have hstep : Progress.step c .plain = some (.plain, [.char c]) := by
      simp [Progress.step, Progress.afterPlain, hescape, hlf, hcr]
    exact readBody_cons (.inl hquote) hstep
  | @lineEnd c _ hc hcr =>
    have hstep : Progress.step c .escape = some (.plain, []) := by
      -- a carriage return is the only end of a line that more can belong to
      rcases hc with rfl | rfl | rfl | rfl
      · rfl
      · exact absurd rfl hcr
      · rfl
      · rfl
    rw [List.tail_cons, List.cons_append, readBody_cons (.inr rfl) hstep, ahead_ahead] at hopen
    exact hopen
  | carriageReturn hbehind =>
    rw [List.tail_cons, List.cons_append, readBody_cons (.inr rfl) step_escape_return,
      List.nil_append, readBody_continued hbehind, ahead_ahead] at hopen
    exact hopen
  | carriageReturnLineFeed =>
    have hlf : '\n' ≠ q.char := by cases q <;> decide
    rw [List.tail_cons, List.cons_append, readBody_cons (.inr rfl) step_escape_return,
      List.cons_append, readBody_cons (.inl hlf) step_continued_feed, ahead_ahead,
      ahead_ahead] at hopen
    exact hopen
  | @single c _ hend hx hu hoctal =>
    have hlf : ¬(c = '\n' ∨ c = '\u2028' ∨ c = '\u2029') := by
      rintro (h | h | h)
      · exact hend (.inl h)
      · exact hend (.inr (.inr (.inl h)))
      · exact hend (.inr (.inr (.inr h)))
    have hcr : c ≠ '\r' := fun h => hend (.inr (.inl h))
    have hstep : Progress.step c .escape = some (.plain, [.char (simpleEscape c)]) := by
      simp only [Progress.step, Progress.afterBackslash, if_neg hlf, if_neg hcr, if_neg hx,
        if_neg hu, hoctal]
    rw [List.tail_cons, List.cons_append, readBody_cons (.inr rfl) hstep, ahead_ahead] at hopen
    exact hopen
  | octal ht =>
    rw [List.tail_cons, readBody_octalDigits ht, ahead_ahead] at hopen
    exact hopen
  | hex ha hb =>
    rw [List.tail_cons, List.cons_append, List.cons_append, List.cons_append,
      readBody_hex ha hb, ahead_ahead] at hopen
    exact hopen
  | unicode hdigits he =>
    rw [List.tail_cons, List.cons_append, List.cons_append, List.cons_append, List.cons_append,
      List.cons_append, readBody_unicode hdigits he, ahead_ahead] at hopen
    exact hopen
  | @braced t _ n e hdigits hn he =>
    rw [List.tail_cons, List.cons_append, List.cons_append, List.append_assoc, List.cons_append,
      readBody_braced hdigits hn he, ahead_ahead] at hopen
    have hlength : ('\\' :: 'u' :: '\x7b' :: (t ++ ['\x7d'])).length = t.length + 3 + 1 := by
      simp only [List.length_cons, List.length_append, List.length_nil]
    rw [hlength, List.cons_append, List.cons_append, List.cons_append, List.append_assoc,
      List.cons_append]
    exact hopen

/-- The reader reads what the rules allow, up to the closing quote. This is the first half of
`readBody_eq_some_iff`. -/
theorem readBody_of_body (tail : Text) {body : Text} {es : List Element} (h : Body q body es) :
    readBody q.char .plain (body ++ q.char :: tail) = some (es, body.length + 1, tail) := by
  induction h with
  | nil =>
    rw [List.nil_append, readBody, if_pos ⟨rfl, nofun⟩]
    rfl
  | @cons t rest es es' hpart _ ih =>
    rw [List.append_assoc, readBody_part hpart, ih, List.length_append]
    simp only [ahead, Option.map_some]
    rw [Nat.add_right_comm, Nat.add_comm rest.length]

/-! ## Reading nothing else -/

/-- Hexadecimal digits with which a number goes on. Unlike `HexDigits` it takes its digits from the
front, as the reader does. -/
inductive HexFrom : Nat → Text → Nat → Prop
  /-- none -/
  | nil {n : Nat} : HexFrom n [] n
  /-- one more digit in front -/
  | cons {n d m : Nat} {c : Char} {t : Text} (hc : hexDigit? c = some d)
      (ht : HexFrom (n * 16 + d) t m) : HexFrom n (c :: t) m

theorem HexFrom.hexDigits {m : Nat} (h : HexFrom n t m) {front : Text}
    (hfront : HexDigits front n) :
    HexDigits (front ++ t) m := by
  induction h generalizing front with
  | nil =>
    rw [List.append_nil]
    exact hfront
  | @cons n d m c t hc _ ih =>
    have hnext := ih (hfront.more hc)
    rwa [List.append_assoc] at hnext

/-- Digits that start from zero are a number of their own, in the sense of `HexDigits`. -/
theorem HexFrom.of_zero (h : HexFrom 0 t n) (ht : t ≠ []) : HexDigits t n := by
  cases h with
  | nil => exact absurd rfl ht
  | @cons _ d _ c t hc ht =>
    rw [Nat.zero_mul, Nat.zero_add] at ht
    exact ht.hexDigits (.one hc)

/-- Octal digits with which an escape goes on that can take `more` of them. It follows the reader,
where `OctalDigits` has one rule for each length. -/
inductive OctalFrom (behind : Text) : Nat → (more : Nat) → Text → Nat → Prop
  /-- the escape ends early -/
  | stop {n more : Nat} (hbehind : ∀ c, behind.head? = some c → octalDigit? c = none) :
      OctalFrom behind n more [] n
  /-- the last digit that it can take -/
  | last {n more d : Nat} {c : Char} (hmore : more ≤ 1) (hc : octalDigit? c = some d) :
      OctalFrom behind n more [c] (n * 8 + d)
  /-- one more digit in front -/
  | cons {n more d m : Nat} {c : Char} {t : Text} (hmore : ¬more ≤ 1)
      (hc : octalDigit? c = some d) (ht : OctalFrom behind (n * 8 + d) (more - 1) t m) :
      OctalFrom behind n more (c :: t) m

/-- What follows the first digit of an octal escape makes it one of the rules of `OctalDigits`. -/
theorem OctalFrom.octalDigits {d m : Nat} (hc : octalDigit? c = some d)
    (h : OctalFrom behind d (if d ≤ 3 then 2 else 1) t m) : OctalDigits (c :: t) behind m := by
  -- the first digit settles whether there can be three of them
  by_cases hd : d ≤ 3
  · rw [if_pos hd] at h
    cases h with
    | stop hbehind => exact .one hc hbehind
    | last hmore => exact absurd hmore (by decide)
    | cons _ hb ht =>
      cases ht with
      | stop hbehind => exact .two hc hd hb hbehind
      | last _ hlast => exact .three hc hd hb hlast
      | cons hmore => exact absurd (Nat.le_refl 1) hmore
  · rw [if_neg hd] at h
    cases h with
    | stop hbehind => exact .one hc hbehind
    | last _ hlast => exact .twoHigh hc (Nat.lt_of_not_le hd) hlast
    | cons hmore => exact absurd (Nat.le_refl 1) hmore

/-- What may stand in front of the closing quote where an escape of fixed length lacks digits: these
digits first (`HexFrom`), and then a `Body`. -/
def Lacks (q : QuoteStyle) (number missing : Nat) (body : Text) (es : List Element) : Prop :=
  ∃ t behind n e es', body = t ++ behind ∧ t.length = max missing 1 ∧ HexFrom number t n ∧
    Element.ofNat? n true = some e ∧ Body q behind es' ∧ es = e :: es'

/-- What may stand in front of the closing quote inside an escape in braces: digits, the closing
brace, and then a body. A number has to have a digit, which `started` keeps track of. -/
def Braced (q : QuoteStyle) (number : Nat) (started : Bool) (body : Text) (es : List Element) :
    Prop :=
  ∃ t behind n e es', body = t ++ '\x7d' :: behind ∧ (started = false → t ≠ []) ∧
    HexFrom number t n ∧ Element.ofNat? n false = some e ∧ Body q behind es' ∧ es = e :: es'

/-- What may stand in front of the closing quote for each place of the reader, and the elements that
are still to come. It is the invariant by which `admits_of_readBody` goes back from the end of the
text to its start. -/
def Progress.Admits (q : QuoteStyle) : Progress → Text → List Element → Prop
  | .plain, body, es => Body q body es
  | .escape, body, es =>
    ∃ t behind es₁ es₂, body = t ++ behind ∧ Part q ('\\' :: t) behind es₁ ∧
      Body q behind es₂ ∧ es = es₁ ++ es₂
  | .continued, body, es =>
    (∃ behind, body = '\n' :: behind ∧ Body q behind es) ∨
      body.head? ≠ some '\n' ∧ Body q body es
  | .octal number more, body, es =>
    ∃ t behind n es', body = t ++ behind ∧ OctalFrom behind number more t n ∧
      Body q behind es' ∧ es = .char (Char.ofNat n) :: es'
  | .hex number missing, body, es => Lacks q number missing body es
  | .unicode, body, es =>
    (∃ rest, body = '\x7b' :: rest ∧ Braced q 0 false rest es) ∨ Lacks q 0 4 body es
  | .braced number started, body, es => Braced q number started body es

variable {p' : Progress} {body : Text} {es es' : List Element}

theorem Element.ofNat?_lt {joinable : Bool} {e : Element}
    (h : Element.ofNat? n joinable = some e) : n < 0x110000 := by
  simp only [Element.ofNat?] at h
  split at h
  · omega
  · split at h
    · omega
    · cases h

/-- One character between two elements: a plain one or a backslash. -/
theorem body_of_afterPlain (hquote : c ≠ q.char) (hstep : Progress.afterPlain c = some (p', es))
    (h : p'.Admits q body es') : Body q (c :: body) (es ++ es') := by
  simp only [Progress.afterPlain] at hstep
  split at hstep
  · next hc =>
    cases hstep
    obtain ⟨t, behind, es₁, es₂, rfl, hpart, hbody, rfl⟩ := h
    rw [hc]
    exact .cons hpart hbody
  · next hescape =>
    split at hstep
    · cases hstep
    · next hend =>
      cases hstep
      exact .cons (.plain hquote hescape (fun h => hend (.inl h)) fun h => hend (.inr h)) h

/-- One more digit of an escape of fixed length: the escape lacked one more before it (`Lacks`). -/
theorem lacks_of_afterHex {number missing : Nat}
    (hstep : Progress.afterHex number missing c = some (p', es)) (h : p'.Admits q body es') :
    Lacks q number missing (c :: body) (es ++ es') := by
  unfold Progress.afterHex at hstep
  split at hstep
  · cases hstep
  · next d hc =>
    dsimp only at hstep
    split at hstep
    · next hmissing =>
      obtain ⟨e, he, heq⟩ := Option.map_eq_some_iff.mp hstep
      cases heq
      refine ⟨[c], body, _, e, es', rfl, ?_, .cons hc .nil, he, h, rfl⟩
      rw [Nat.max_eq_right hmissing]
      rfl
    · next hmissing =>
      cases hstep
      obtain ⟨t, behind, n, e, es', rfl, hlength, hdigits, he, hbody, rfl⟩ := h
      refine ⟨c :: t, behind, n, e, es', rfl, ?_, .cons hc hdigits, he, hbody, rfl⟩
      rw [List.length_cons, hlength]
      omega

/-- One more character of an escape in braces: a digit, or the brace that closes it. -/
theorem braced_of_afterBraced {number : Nat} {started : Bool}
    (hstep : Progress.afterBraced number started c = some (p', es)) (h : p'.Admits q body es') :
    Braced q number started (c :: body) (es ++ es') := by
  unfold Progress.afterBraced at hstep
  split at hstep
  · next hc =>
    split at hstep
    · next hstarted =>
      obtain ⟨e, he, heq⟩ := Option.map_eq_some_iff.mp hstep
      cases heq
      rw [hc]
      refine ⟨[], body, number, e, es', rfl, fun h' => ?_, .nil, he, h, rfl⟩
      rw [hstarted] at h'
      cases h'
    · cases hstep
  · split at hstep
    · cases hstep
    · next d hc =>
      dsimp only at hstep
      split at hstep
      · cases hstep
        obtain ⟨t, behind, n, e, es', rfl, -, hdigits, he, hbody, rfl⟩ := h
        exact ⟨c :: t, behind, n, e, es', rfl, fun _ => nofun, .cons hc hdigits, he, hbody, rfl⟩
      · cases hstep

/-- An escape of fixed length has as many digits as it lacked, two behind `\x`. -/
theorem admits_escape_hex (h : Lacks q 0 2 body es) :
    Progress.escape.Admits q ('x' :: body) es := by
  obtain ⟨t, behind, n, e, es', rfl, hlength, hdigits, he, hbody, rfl⟩ := h
  match t, hdigits with
  | [a, b], .cons (d := x) ha (.cons (d := y) hb .nil) =>
    have hsmall : (0 * 16 + x) * 16 + y < 0xD800 := by
      have hx := hexDigit?_lt ha
      have hy := hexDigit?_lt hb
      omega
    rw [Element.ofNat?, if_pos (.inl hsmall), Nat.zero_mul, Nat.zero_add] at he
    cases he
    exact ⟨['x', a, b], behind, _, es', rfl, .hex ha hb, hbody, rfl⟩

/-- What follows `\u` is an escape of four digits or one in braces. -/
theorem admits_escape_unicode (h : Progress.unicode.Admits q body es) :
    Progress.escape.Admits q ('u' :: body) es := by
  rcases h with ⟨rest, rfl, t, behind, n, e, es', rfl, ht, hdigits, he, hbody, rfl⟩ |
    ⟨t, behind, n, e, es', rfl, hlength, hdigits, he, hbody, rfl⟩
  · refine ⟨'u' :: '\x7b' :: (t ++ ['\x7d']), behind, [e], es', ?_, ?_, hbody, rfl⟩
    · rw [List.cons_append, List.cons_append, List.append_assoc, List.singleton_append]
    · exact .braced (hdigits.of_zero (ht rfl)) (Element.ofNat?_lt he) he
  · match t, hlength with
    | [a, b, c, d], _ =>
      exact ⟨['u', a, b, c, d], behind, [e], es', rfl, .unicode (hdigits.of_zero nofun) he, hbody,
        rfl⟩

/-- One character behind a backslash, which settles what kind of `Part` this is. -/
theorem admits_of_afterBackslash (hstep : Progress.afterBackslash c = (p', es))
    (h : p'.Admits q body es') : Progress.escape.Admits q (c :: body) (es ++ es') := by
  simp only [Progress.afterBackslash] at hstep
  split at hstep
  · next hc =>
    cases hstep
    refine ⟨[c], body, [], es', rfl, .lineEnd ?_ ?_, h, rfl⟩
    · rcases hc with h | h | h
      · exact .inl h
      · exact .inr (.inr (.inl h))
      · exact .inr (.inr (.inr h))
    · rintro rfl
      revert hc
      decide
  · next hfeed =>
    split at hstep
    · next hc =>
      cases hstep
      subst hc
      rcases h with ⟨behind, rfl, hbody⟩ | ⟨hhead, hbody⟩
      · exact ⟨['\r', '\n'], behind, [], es', rfl, .carriageReturnLineFeed, hbody, rfl⟩
      · exact ⟨['\r'], body, [], es', rfl, .carriageReturn hhead, hbody, rfl⟩
    · next hreturn =>
      split at hstep
      · next hc =>
        cases hstep
        rw [hc]
        exact admits_escape_hex h
      · next hx =>
        split at hstep
        · next hc =>
          cases hstep
          rw [hc]
          exact admits_escape_unicode h
        · next hu =>
          split at hstep
          · next d hc =>
            cases hstep
            obtain ⟨t, behind, n, es', rfl, hdigits, hbody, rfl⟩ := h
            exact ⟨c :: t, behind, [.char (Char.ofNat n)], es', rfl,
              .octal (hdigits.octalDigits hc), hbody, rfl⟩
          · next hoctal =>
            cases hstep
            refine ⟨[c], body, _, es', rfl, .single ?_ hx hu hoctal, h, rfl⟩
            rintro (h | h | h | h)
            · exact hfeed (.inl h)
            · exact hreturn h
            · exact hfeed (.inr (.inl h))
            · exact hfeed (.inr (.inr h))

/-- A character that the reader takes may stand where it took it. The cases are the places of
`Progress`. -/
theorem admits_of_step {p : Progress} (hquote : c ≠ q.char ∨ p = .escape)
    (hstep : p.step c = some (p', es)) (h : p'.Admits q body es') :
    p.Admits q (c :: body) (es ++ es') := by
  have hne : p ≠ .escape → c ≠ q.char := fun hp => hquote.resolve_right hp
  cases p with
  | plain => exact body_of_afterPlain (hne nofun) hstep h
  | escape => exact admits_of_afterBackslash (Option.some.inj hstep) h
  | continued =>
    dsimp only [Progress.step] at hstep
    split at hstep
    · next hc =>
      cases hstep
      exact .inl ⟨body, by rw [hc], h⟩
    · next hc =>
      refine .inr ⟨fun hhead => hc (Option.some.inj hhead), ?_⟩
      exact body_of_afterPlain (hne nofun) hstep h
  | octal number more =>
    dsimp only [Progress.step] at hstep
    split at hstep
    · next d hc =>
      split at hstep
      · next hmore =>
        cases hstep
        exact ⟨[c], body, _, es', rfl, .last hmore hc, h, rfl⟩
      · next hmore =>
        cases hstep
        obtain ⟨t, behind, n, es', rfl, hdigits, hbody, rfl⟩ := h
        exact ⟨c :: t, behind, n, es', rfl, .cons hmore hc hdigits, hbody, rfl⟩
    · next hc =>
      -- the escape ended before this character, which stands between two elements
      obtain ⟨⟨p'', es''⟩, hplain, heq⟩ := Option.map_eq_some_iff.mp hstep
      cases heq
      refine ⟨[], c :: body, number, es'' ++ es', rfl, .stop ?_, ?_, rfl⟩
      · rintro _ ⟨⟩
        exact hc
      · exact body_of_afterPlain (hne nofun) hplain h
  | hex number missing => exact lacks_of_afterHex hstep h
  | unicode =>
    dsimp only [Progress.step] at hstep
    split at hstep
    · next hc =>
      cases hstep
      exact .inl ⟨body, by rw [hc], h⟩
    · exact .inr (lacks_of_afterHex hstep h)
  | braced number started => exact braced_of_afterBraced hstep h

/-- Where the reader can meet the closing quote, nothing has to stand in front of it. -/
theorem admits_of_close {p : Progress} (hclose : p.close? = some es) : p.Admits q [] es := by
  cases p with
  | plain =>
    cases hclose
    exact .nil
  | continued =>
    cases hclose
    exact .inr ⟨nofun, .nil⟩
  | octal number more =>
    cases hclose
    exact ⟨[], [], number, [], rfl, .stop nofun, .nil, rfl⟩
  | escape => cases hclose
  | hex => cases hclose
  | unicode => cases hclose
  | braced => cases hclose

/-- Wherever the reader starts, it reads up to a closing quote what `Progress.Admits` says may stand
there. The induction is on the text, from its end. -/
theorem admits_of_readBody {p : Progress} {u : Text} {rest : Text}
    (h : readBody q.char p u = some (es, n, rest)) :
    ∃ body, u = body ++ q.char :: rest ∧ n = body.length + 1 ∧ p.Admits q body es := by
  -- by induction on the text, for all places of the reader at once
  induction u generalizing p es n with
  | nil => cases h
  | cons c u ih =>
    rw [readBody] at h
    split at h
    · next hc =>
      obtain ⟨es', hclose, heq⟩ := Option.map_eq_some_iff.mp h
      cases heq
      exact ⟨[], by rw [hc.1, List.nil_append], rfl, admits_of_close hclose⟩
    · next hopen =>
      split at h
      · cases h
      · next p' es' hstep =>
        obtain ⟨⟨es'', m, r⟩, hread, heq⟩ := Option.map_eq_some_iff.mp h
        cases heq
        obtain ⟨body, rfl, rfl, hbody⟩ := ih hread
        have hquote : c ≠ q.char ∨ p = .escape := by
          by_cases hc : c = q.char
          · exact .inr (Decidable.byContradiction fun hp => hopen ⟨hc, hp⟩)
          · exact .inl hc
        exact ⟨c :: body, rfl, rfl, admits_of_step hquote hstep hbody⟩

/-- **The reader reads what the grammar allows**: a body (`Body`) up to its closing quote, to the
elements that the rules give. -/
theorem readBody_eq_some_iff {u rest : Text} :
    readBody q.char .plain u = some (es, n, rest) ↔
      ∃ body, u = body ++ q.char :: rest ∧ n = body.length + 1 ∧ Body q body es := by
  constructor
  · exact admits_of_readBody
  · rintro ⟨body, rfl, rfl, hbody⟩
    exact readBody_of_body rest hbody

/-- A text is read as a literal just when it is a body between quotes, with nothing before or behind
them. -/
theorem read_eq_some_iff {raw v : Text} :
    read raw = some v ↔ ∃ q body es, raw = QuoteStyle.quoted q body ∧ Body q body es ∧
      v = value es := by
  constructor
  · intro h
    simp only [read] at h
    split at h
    · cases h
    · next c u =>
      split at h
      · next hc =>
        obtain ⟨q, rfl⟩ : ∃ q : QuoteStyle, c = q.char := by
          rcases hc with rfl | rfl
          · exact ⟨.single, rfl⟩
          · exact ⟨.double, rfl⟩
        split at h
        · next es n hread =>
          obtain ⟨body, rfl, -, hbody⟩ := readBody_eq_some_iff.mp hread
          exact ⟨q, body, es, rfl, hbody, (Option.some.inj h).symm⟩
        · cases h
      · cases h
  · rintro ⟨q, body, es, rfl, hbody, rfl⟩
    have hquote : q.char = '\'' ∨ q.char = '"' := by
      cases q with
      | single => exact .inl rfl
      | double => exact .inr rfl
    simp only [read, QuoteStyle.quoted]
    rw [if_pos hquote, readBody_of_body [] hbody]

/-! ## One reading -/

/-- A body is read in one way only, as both readings are that of `readBody`. The rules of `Part`
alone do not make this plain, since they overlap in what they look at. -/
theorem Body.unique (h : Body q body es) (h' : Body q body es') : es = es' := by
  have hread := readBody_of_body [] h
  rw [readBody_of_body [] h'] at hread
  exact (Prod.mk.inj (Option.some.inj hread)).1.symm

/-- **A literal has one value**, as `units` tell texts apart. Its quotes are settled by its text as
well. -/
theorem IsLiteral.unique {q' : QuoteStyle} {raw v v' : Text} (h : IsLiteral q raw v)
    (h' : IsLiteral q' raw v') : q = q' ∧ v = v' := by
  obtain ⟨body, es, rfl, hbody, hvalue⟩ := h
  obtain ⟨body', es', hraw, hbody', hvalue'⟩ := h'
  obtain ⟨rfl, rfl⟩ := QuoteStyle.quoted_injective hraw
  obtain rfl := hbody.unique hbody'
  exact ⟨rfl, units_injective (hvalue.symm.trans hvalue')⟩

end DotJs.StringLiteral
