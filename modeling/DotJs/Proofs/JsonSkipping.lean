import DotJs.Proofs.JsonTokens

/-!
# Skipping JSON

A value that is not needed is skipped, whatever it is: it can be nested to any depth, hold numbers
of any size and strings that are no text. Skipping is a machine with a stack of open brackets. It
has two steps for each character of the text, which `Skips` carries along.

* `Reader.skipScalar_eq` is about the values without parts;
* `Stands.isSkipped` goes through the grammar, and `Reader.skipValue_eq` is what it comes to.
-/

namespace DotJs.Json

variable {text rest : Text} {c : Char}

namespace Reader

/-! ## Values without parts -/

theorem skipString_go_eq (h : Closes text rest) {steps : Nat} (hsteps : text.length < steps) :
    skipString.go steps text = .ok rest := by
  induction h generalizing steps with
  | close =>
    cases steps with
    | zero => cases hsteps
    | succ steps => rfl
  | plain hquote hslash hcontrol _ ih =>
    cases steps with
    | zero => cases hsteps
    | succ steps =>
      have hrest := ih (Nat.lt_of_succ_lt_succ hsteps)
      simp [skipString.go, hquote, hslash, Nat.not_lt.mpr hcontrol, hrest]
  | @letter e c text rest he _ ih =>
    cases steps with
    | zero => cases hsteps
    | succ steps =>
      have hrest : text.length < steps := Nat.lt_of_succ_lt (Nat.lt_of_succ_lt_succ hsteps)
      simp [skipString.go, letterEscape?_ne he, he, ih hrest]
  | @number n text text' rest hn _ ih =>
    cases steps with
    | zero => cases hsteps
    | succ steps =>
      have hlength := hn.length_eq
      have hrest : text'.length < steps := by
        simp only [List.length_cons] at hsteps
        omega
      simp [skipString.go, fourDigits_eq hn, ih hrest]

theorem skipString_eq (h : Closes text rest) : skipString ('"' :: text) = .ok ((), rest) := by
  simp [skipString, skipString_go_eq h (Nat.lt_succ_self _), Except.map]

theorem skipDigits_append {digits : Text} (h : IsDigits digits)
    (hrest : ∀ c, rest.head? = some c → c.isDigit = false) :
    skipDigits (digits ++ rest) = .ok ((), rest) := by
  have hempty : digits.isEmpty = false := by simpa using h.1
  rw [skipDigits]
  refine (run_bind (digitsHere_append h.2 hrest)).trans ?_
  rw [hempty]
  rfl

/-- An exponent is skipped behind its mark, with or without a sign. -/
theorem skipExponent_behind (e : Exponent) (hrest : EndsNumber rest) :
    (do
      let sign := (← get).head?
      if sign == some '+' || sign == some '-' then drop
      skipDigits : Reader Unit) (e.sign.toList ++ e.digits ++ rest) = .ok ((), rest) := by
  obtain ⟨mark, sign, digits, -, hsign, hdigits⟩ := e
  have hskip := skipDigits_append hdigits fun c hc => (hrest c hc).1
  refine (run_bind (r := get) rfl).trans ?_
  cases sign with
  | none =>
    obtain ⟨d, digits, rfl⟩ := List.exists_cons_of_ne_nil hdigits.1
    have hd := hdigits.2 d List.mem_cons_self
    simp only [Option.toList_none, List.nil_append, List.cons_append, List.head?_cons,
      beq_plus_of_isDigit hd, beq_dash_of_isDigit hd, Bool.or_self, Bool.false_eq_true, if_false]
    exact hskip
  | some s => rcases hsign s rfl with rfl | rfl <;> exact hskip

theorem skipExponent_text (e : Option Exponent) (hrest : EndsNumber rest) :
    skipExponent (e.elim [] Exponent.text ++ rest) = .ok ((), rest) := by
  rw [skipExponent]
  refine (run_bind (r := get) rfl).trans ?_
  cases e with
  | none =>
    have hnone : ∀ c, rest.head? = some c → c ≠ 'e' ∧ c ≠ 'E' := fun c hc => (hrest c hc).2.2
    simp only [Option.elim_none, List.nil_append]
    generalize rest.head? = head at hnone
    split
    · exact absurd rfl (hnone _ rfl).1
    · exact absurd rfl (hnone _ rfl).2
    · rfl
  | some e =>
    have hbehind := skipExponent_behind e hrest
    have hhead : (e.text ++ rest).head? = some e.mark := rfl
    simp only [Option.elim_some, hhead]
    rcases e.isMark with hmark | hmark <;> rw [hmark] <;> exact hbehind

/-- A number behind the digits that it starts with. It is a part of `skipNumber`, named for its
lemma. -/
def skipTail : Reader Unit := do
  if (← get).head? == some '.' then
    drop
    skipDigits
  skipExponent

/-- A number behind its sign. It is a part of `skipNumber`, named for its lemma. -/
def skipUnsigned : Reader Unit := do
  match ← get with
  | '0' :: rest =>
    if (rest.head?.map Char.isDigit).getD false then fail .badNumber
    drop
  | _ => skipDigits
  skipTail

theorem skipNumber_dash (text : Text) : skipNumber ('-' :: text) = skipUnsigned text := rfl

theorem skipNumber_digit (hc : c.isDigit) (text : Text) :
    skipNumber (c :: text) = skipUnsigned (c :: text) := by
  rw [skipNumber]
  refine (run_bind (r := get) rfl).trans ?_
  simp only [List.head?_cons, beq_dash_of_isDigit hc, Bool.false_eq_true, if_false]
  rfl

theorem skipUnsigned_zero (hend : ∀ c, text.head? = some c → c.isDigit = false) :
    skipUnsigned ('0' :: text) = skipTail text := by
  have hnone : (text.head?.map Char.isDigit).getD false = false := by
    cases text with
    | nil => rfl
    | cons d text => exact hend d rfl
  rw [skipUnsigned]
  refine (run_bind (r := get) rfl).trans ?_
  simp only [hnone, Bool.false_eq_true, if_false]
  rfl

theorem skipUnsigned_ne (hc : c ≠ '0') (h : skipDigits (c :: text) = .ok ((), rest)) :
    skipUnsigned (c :: text) = skipTail rest := by
  rw [skipUnsigned]
  refine (run_bind (r := get) rfl).trans ?_
  generalize hstart : c :: text = start at h
  split
  · exact absurd (List.cons.inj hstart).1 hc
  · exact run_bind h

theorem skipUnsigned_digits {whole : Text} (hwhole : IsDigits whole)
    (hzero : whole.head? = some '0' → whole = ['0'])
    (hend : ∀ c, text.head? = some c → c.isDigit = false) :
    skipUnsigned (whole ++ text) = skipTail text := by
  have hskip := skipDigits_append hwhole hend
  obtain ⟨d, digits, rfl⟩ := List.exists_cons_of_ne_nil hwhole.1
  by_cases hd : d = '0'
  · subst hd
    obtain ⟨-, rfl⟩ := List.cons.inj (hzero rfl)
    exact skipUnsigned_zero hend
  · exact skipUnsigned_ne hd hskip

theorem skipTail_tail (n : Numeral) (hrest : EndsNumber rest) :
    skipTail (n.tail ++ rest) = .ok ((), rest) := by
  have hexponent := skipExponent_text n.exponent hrest
  rw [Numeral.tail, List.append_assoc, skipTail]
  refine (run_bind (r := get) rfl).trans ?_
  cases hfraction : n.fraction with
  | some digits =>
    have hskip := skipDigits_append (n.isFraction digits hfraction)
      fun c hc => (head_exponent n.exponent hrest c hc).1
    exact (run_bind (drop_cons _ _)).trans ((run_bind hskip).trans hexponent)
  | none =>
    have hpoint : ((n.exponent.elim [] Exponent.text ++ rest).head? == some '.') = false := by
      refine beq_false_of_ne fun hc => ?_
      exact (head_exponent n.exponent hrest '.' hc).2 rfl
    simp only [Option.elim_none, List.nil_append, hpoint, Bool.false_eq_true, if_false]
    exact hexponent

theorem skipNumber_text (n : Numeral) (hrest : EndsNumber rest) :
    skipNumber (n.text ++ rest) = .ok ((), rest) := by
  have hunsigned : skipUnsigned (n.whole ++ (n.tail ++ rest)) = .ok ((), rest) :=
    (skipUnsigned_digits n.isWhole n.isZero (isDigit_tail n hrest)).trans (skipTail_tail n hrest)
  rw [Numeral.text, List.append_assoc, List.append_assoc]
  cases hsign : n.isNegative with
  | true => exact (skipNumber_dash _).trans hunsigned
  | false =>
    obtain ⟨d, digits, hwhole⟩ := List.exists_cons_of_ne_nil n.isWhole.1
    have hd := n.isWhole.2 d (by rw [hwhole]; exact List.mem_cons_self)
    rw [hwhole] at hunsigned ⊢
    exact (skipNumber_digit hd _).trans hunsigned

/-- A value without parts is skipped by its first character, which `skipScalar` is given. -/
theorem skipScalar_eq {t : Tree} (h : Stands (.value t) (c :: text) rest) (hlist : c ≠ '[')
    (hobject : c ≠ '{') : skipScalar c (c :: text) = .ok ((), rest) := by
  generalize hstart : c :: text = start at h
  cases h with
  | null | yes | no =>
    obtain ⟨rfl, rfl⟩ := List.cons.inj hstart
    exact (run_bind (drop_cons _ _)).trans (word_append _ _)
  | number n hrest =>
    obtain ⟨d, behind, htext, hd⟩ := n.exists_head
    have hskip := skipNumber_text n hrest
    rw [htext, List.cons_append] at hstart hskip
    obtain ⟨rfl, rfl⟩ := List.cons.inj hstart
    rw [htext, List.cons_append, skipScalar, if_pos (by simpa using hd)]
    · exact hskip
    -- neither a dash nor a digit starts anything else
    all_goals
      rintro rfl
      rcases hd with hd | hd <;> cases hd
  | string h =>
    obtain ⟨rfl, rfl⟩ := List.cons.inj hstart
    exact skipString_eq h.closes
  | noElement | array => exact absurd (List.cons.inj hstart).1 hlist
  | noMember | object => exact absurd (List.cons.inj hstart).1 hobject

/-! ## Steps of skipping -/

/-- The bracket that puts a `Bracket` on the stack; `Bracket.closing` takes it off again. -/
def Bracket.opening : Bracket → Char
  | .list => '['
  | .object => '{'

section Steps

variable {b : Bracket} {stack : List Bracket} {steps : Nat} {start behind : Text}

theorem skipFrom_scalar {t : Tree} (h : Stands (.value t) (c :: text) rest)
    (hstart : Blanks start (c :: text)) (hlist : c ≠ '[') (hobject : c ≠ '{') :
    skipFrom (steps + 1) .before stack start = skipFrom steps .behind stack rest := by
  obtain ⟨d, behind, heq, hblank, -⟩ := h.exists_head
  obtain ⟨rfl, rfl⟩ := List.cons.inj heq
  refine (run_bind (next_of_blanks hstart hblank)).trans ?_
  have hskip :=
    run_bind (k := fun _ => skipFrom steps .behind stack) (skipScalar_eq h hlist hobject)
  generalize hhead : some c = head
  split
  · cases hhead
  · cases hhead
    exact absurd rfl hlist
  · cases hhead
    exact absurd rfl hobject
  · obtain rfl := Option.some.inj hhead
    exact hskip

theorem isBlank_opening (b : Bracket) : isBlank b.opening = false := by
  cases b <;> rfl

/-- A bracket that opens a list or an object is put on the stack. -/
theorem skipFrom_opening (h : Blanks start (b.opening :: text)) :
    skipFrom (steps + 1) .before stack start = skipFrom steps .opened (b :: stack) text := by
  refine (run_bind (next_of_blanks h (isBlank_opening b))).trans ?_
  cases b <;> exact run_bind (drop_cons _ _)

theorem isBlank_closing (b : Bracket) : isBlank b.closing = false := by
  cases b <;> rfl

theorem skipFrom_opened_closing (h : Blanks text (b.closing :: rest)) :
    skipFrom (steps + 1) .opened (b :: stack) text = skipFrom steps .behind stack rest := by
  refine (run_bind (next_of_blanks h (isBlank_closing b))).trans ?_
  simp only [if_pos]
  exact run_bind (drop_cons _ _)

theorem skipFrom_opened (h : Blanks text (c :: start)) (hblank : isBlank c = false)
    (hc : c ≠ b.closing) (hkey : b.skipKey (c :: start) = .ok ((), behind)) :
    skipFrom (steps + 1) .opened (b :: stack) text =
      skipFrom steps .before (b :: stack) behind := by
  refine (run_bind (next_of_blanks h hblank)).trans ?_
  simp only [if_neg hc]
  exact run_bind hkey

theorem skipFrom_behind_closing (h : Blanks text (b.closing :: rest)) :
    skipFrom (steps + 1) .behind (b :: stack) text = skipFrom steps .behind stack rest := by
  have hcomma : b.closing ≠ ',' := by cases b <;> decide
  refine (run_bind (next_of_blanks h (isBlank_closing b))).trans ?_
  simp only [if_neg hcomma, if_pos]
  exact run_bind (drop_cons _ _)

theorem skipFrom_behind_comma (h : Blanks text (',' :: start))
    (hkey : b.skipKey start = .ok ((), behind)) :
    skipFrom (steps + 1) .behind (b :: stack) text =
      skipFrom steps .before (b :: stack) behind := by
  refine (run_bind (next_of_blanks h rfl)).trans ?_
  simp only [if_pos]
  exact (run_bind (drop_cons _ _)).trans (run_bind hkey)

theorem skipKey_object {colon value : Text} (hkey : Closes text colon)
    (hcolon : Blanks colon (':' :: value)) (hstart : Blanks start ('"' :: text)) :
    Bracket.object.skipKey start = .ok ((), value) := by
  rw [Bracket.skipKey]
  refine (run_bind (next_of_blanks hstart rfl)).trans ?_
  exact (run_bind (skipString_eq hkey)).trans (colon_eq hcolon)

end Steps

/-- Skipping goes from one place to a later one, and keeps two steps for each character that is
left. So the bound of `skipValue` is enough for any value, without a look at how many steps each
part takes. -/
def Skips (stage : Skipping) (stack : List Bracket) (text : Text) (stage' : Skipping)
    (stack' : List Bracket) (rest : Text) : Prop :=
  ∀ steps, 2 * text.length + 2 ≤ steps → ∃ steps', 2 * rest.length + 2 ≤ steps' ∧
    skipFrom steps stage stack text = skipFrom steps' stage' stack' rest

namespace Skips

variable {stage stage' : Skipping} {b : Bracket} {stack stack' : List Bracket} {start behind : Text}

theorem trans {stage'' : Skipping} {stack'' : List Bracket} {rest' : Text}
    (h : Skips stage stack text stage' stack' rest)
    (h' : Skips stage' stack' rest stage'' stack'' rest') :
    Skips stage stack text stage'' stack'' rest' := by
  intro steps hsteps
  obtain ⟨steps', hsteps', heq⟩ := h steps hsteps
  obtain ⟨steps'', hsteps'', heq'⟩ := h' steps' hsteps'
  exact ⟨steps'', hsteps'', heq.trans heq'⟩

/-- One step, or two, that take a character at least, in the sense of `Skips`. Two steps are all
that a character has, and no more than two are needed for one: to open a bracket and to see what is
behind it. -/
theorem of_steps (n : Nat) (hn : n ≤ 2) (hlength : rest.length < text.length)
    (h : ∀ steps, skipFrom (steps + n) stage stack text = skipFrom steps stage' stack' rest) :
    Skips stage stack text stage' stack' rest := by
  intro steps hsteps
  have hle : n ≤ steps := by omega
  obtain ⟨steps, rfl⟩ := Nat.exists_eq_add_of_le' hle
  exact ⟨steps, by omega, h steps⟩

/-- A value without parts is skipped in one step. -/
theorem of_scalar {t : Tree} (h : Stands (.value t) text rest) (hstart : Blanks start text)
    (hhead : ∀ c, text.head? = some c → c ≠ '[' ∧ c ≠ '{') :
    Skips .before stack start .behind stack rest := by
  have hlength := Nat.lt_of_lt_of_le h.length_lt hstart.length_le
  obtain ⟨c, behind, rfl, -⟩ := h.exists_head
  obtain ⟨hlist, hobject⟩ := hhead c rfl
  exact of_steps 1 (by decide) hlength fun _ => skipFrom_scalar h hstart hlist hobject

/-- What an open bracket holds is skipped from its first part on, which takes two steps. -/
theorem of_opened {value : Text} (hopen : Blanks start (b.opening :: text))
    (hblanks : Blanks text (c :: rest)) (hblank : isBlank c = false) (hc : c ≠ b.closing)
    (hkey : b.skipKey (c :: rest) = .ok ((), value)) (hvalue : value.length ≤ (c :: rest).length) :
    Skips .before stack start .before (b :: stack) value := by
  have hopened := hopen.length_le
  have hle := hblanks.length_le
  rw [List.length_cons] at hopened
  refine of_steps 2 (Nat.le_refl 2) (by omega) fun _ => (skipFrom_opening hopen).trans ?_
  exact skipFrom_opened hblanks hblank hc hkey

/-- An open bracket that holds nothing is skipped in two steps. -/
theorem of_empty (hopen : Blanks start (b.opening :: text))
    (hclosing : Blanks text (b.closing :: rest)) :
    Skips .before stack start .behind stack rest := by
  have hopened := hopen.length_le
  have hle := hclosing.length_le
  rw [List.length_cons] at hopened hle
  refine of_steps 2 (Nat.le_refl 2) (by omega) fun _ => (skipFrom_opening hopen).trans ?_
  exact skipFrom_opened_closing hclosing

/-- A closing bracket is skipped in one step. -/
theorem of_closing (hclosing : Blanks text (b.closing :: rest)) :
    Skips .behind (b :: stack) text .behind stack rest :=
  of_steps 1 (by decide) hclosing.length_le fun _ => skipFrom_behind_closing hclosing

/-- A comma is skipped in one step, and with it the key of the next member. -/
theorem of_comma {value : Text} (hcomma : Blanks text (',' :: behind))
    (hkey : b.skipKey behind = .ok ((), value)) (hvalue : value.length ≤ behind.length) :
    Skips .behind (b :: stack) text .before (b :: stack) value := by
  have hle := hcomma.length_le
  rw [List.length_cons] at hle
  exact of_steps 1 (by decide) (by omega) fun _ => skipFrom_behind_comma hcomma hkey

end Skips

end Reader

open Reader (Bracket Skips)

/-- Whether a part is skipped between two places, in the sense of `Skips`. For what follows an
element, the bracket on top of the stack is the one that it closes. -/
def Tree.Part.IsSkipped (text rest : Text) : Tree.Part → Prop
  | .value _ => ∀ start stack, Blanks start text → Skips .before stack start .behind stack rest
  | .member _ => ∃ behind, (∀ start, Blanks start text →
        Bracket.object.skipKey start = .ok ((), behind)) ∧
      behind.length < text.length ∧ ∀ stack, Skips .before stack behind .behind stack rest
  | .elements _ => ∀ stack, Skips .behind (.list :: stack) text .behind stack rest
  | .members _ => ∀ stack, Skips .behind (.object :: stack) text .behind stack rest

/-- **Whatever stands in a text is skipped.** The induction is on the grammar, with one case for
each rule of `Stands`. -/
theorem Stands.isSkipped {part : Tree.Part} (h : Stands part text rest) :
    part.IsSkipped text rest := by
  induction h with
  | null =>
    intro start stack hstart
    exact .of_scalar .null hstart (by rintro _ ⟨⟩; decide)
  | yes =>
    intro start stack hstart
    exact .of_scalar .yes hstart (by rintro _ ⟨⟩; decide)
  | no =>
    intro start stack hstart
    exact .of_scalar .no hstart (by rintro _ ⟨⟩; decide)
  | number n hrest =>
    intro start stack hstart
    refine .of_scalar (.number n hrest) hstart fun c hc => ?_
    obtain ⟨d, behind, htext, hd⟩ := n.exists_head
    rw [htext] at hc
    obtain rfl : d = c := Option.some.inj hc
    constructor <;> rintro rfl <;> rcases hd with hd | hd <;> cases hd
  | string h =>
    intro start stack hstart
    exact .of_scalar (.string h) hstart (by rintro _ ⟨⟩; decide)
  | noElement h =>
    intro start stack hstart
    exact .of_empty (b := .list) hstart h
  | array hblanks ht hts iht ihts =>
    intro start stack hstart
    obtain ⟨c, behind, rfl, hblank, hc⟩ := ht.exists_head
    have hopened : Skips .before stack start .before (.list :: stack) (c :: behind) :=
      .of_opened (b := .list) hstart hblanks hblank hc rfl (Nat.le_refl _)
    exact hopened.trans ((iht _ _ (Blanks.refl _)).trans (ihts stack))
  | noMember h =>
    intro start stack hstart
    exact .of_empty (b := .object) hstart h
  | object hblanks hm hms ihm ihms =>
    intro start stack hstart
    obtain ⟨value, hkey, hlength, hvalue⟩ := ihm
    obtain ⟨behind, rfl⟩ := hm.exists_quote
    have hopened : Skips .before stack start .before (.object :: stack) value :=
      .of_opened (b := .object) hstart hblanks rfl (by decide) (hkey _ (Blanks.refl _))
        (Nat.le_of_lt hlength)
    exact hopened.trans ((hvalue _).trans (ihms stack))
  | @member key t text colon behind value rest hkey hcolon hblanks ht iht =>
    have hkeys := hkey.closes.length_lt
    have hcolons := hcolon.length_le
    rw [List.length_cons] at hcolons
    refine ⟨behind, fun start => Reader.skipKey_object hkey.closes hcolon, ?_, fun stack => ?_⟩
    · rw [List.length_cons]
      omega
    · exact iht behind stack hblanks
  | listEnd h => exact fun stack => .of_closing (b := .list) h
  | element hcomma hblanks ht hts iht ihts =>
    intro stack
    have hskipped : Skips .behind (.list :: stack) _ .before (.list :: stack) _ :=
      .of_comma hcomma rfl (Nat.le_refl _)
    exact hskipped.trans ((iht _ _ hblanks).trans (ihts stack))
  | objectEnd h => exact fun stack => .of_closing (b := .object) h
  | memberBehind hcomma hblanks hm hms ihm ihms =>
    intro stack
    obtain ⟨value, hkey, hlength, hvalue⟩ := ihm
    have hskipped : Skips .behind (.object :: stack) _ .before (.object :: stack) value :=
      .of_comma hcomma (hkey _ hblanks) (Nat.le_trans (Nat.le_of_lt hlength) hblanks.length_le)
    exact hskipped.trans ((hvalue _).trans (ihms stack))

/-- **A value is skipped**, whatever it is: nested to any depth, with numbers of any size. The bound
that `skipValue` starts with is never used up. -/
theorem Reader.skipValue_eq {t : Tree} {start : Text} (h : Stands (.value t) text rest)
    (hstart : Blanks start text) : skipValue start = .ok ((), rest) := by
  obtain ⟨steps, hsteps, heq⟩ := h.isSkipped start [] hstart (2 * start.length + 4) (by omega)
  obtain ⟨steps, rfl⟩ := Nat.exists_eq_add_of_le' (Nat.le_trans (Nat.le_add_left 1 _) hsteps)
  rw [skipValue]
  exact (run_bind rfl).trans heq

end DotJs.Json
