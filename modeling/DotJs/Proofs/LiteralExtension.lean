import DotJs.Proofs.LiteralReader
import DotJs.Proofs.Placement

/-!
# What an extended literal means

A literal is extended by writing `.js` in front of its closing quote. Its value gets `.js`
behind it, and this module shows that the two go together.

The danger is at the end of the body: an escape there could go on with the new characters, or a
carriage return with a line feed. By the rules such an end is one that the new characters do not
take up (`Part.append_dotJs`), as `.` is neither a digit nor a line feed. So a body with `.js`
behind it has the old elements with three new ones behind them (`Body.append_dotJs`). What the
reader makes of these elements is extended in the same way (`read_append_dotJs`), also where
halves of surrogate pairs stand alone.
-/

namespace DotJs.StringLiteral

variable {q : QuoteStyle}

/-! ## By the rules -/

/-- Whether an octal escape ends is not changed by `.js` behind what follows it, not even where
nothing followed: `.` is no octal digit. -/
theorem OctalDigits.append_dotJs {t behind : Text} {n : Nat} (h : OctalDigits t behind n) :
    OctalDigits t (behind ++ dotJs) n := by
  have hdot : ∀ c, dotJs.head? = some c → octalDigit? c = none := by
    rintro c ⟨⟩
    rfl
  cases h with
  | one ha hbehind => exact .one ha (head?_append hbehind hdot)
  | two ha hx hb hbehind => exact .two ha hx hb (head?_append hbehind hdot)
  | twoHigh ha hx hb => exact .twoHigh ha hx hb
  | three ha hx hb hc => exact .three ha hx hb hc

/-- A part stays what it is when `.js` comes behind what follows it. Only the rules that look at
`behind` need an argument. -/
theorem Part.append_dotJs {t behind : Text} {es : List Element} (h : Part q t behind es) :
    Part q t (behind ++ dotJs) es := by
  -- only two rules look at what follows, and `.` is nothing that they look for
  cases h with
  | plain hquote hescape hlf hcr => exact .plain hquote hescape hlf hcr
  | lineEnd hc hcr => exact .lineEnd hc hcr
  | carriageReturn hbehind =>
    refine .carriageReturn fun hhead => ?_
    refine head?_append (p := fun c => c ≠ '\n') ?_ ?_ '\n' hhead rfl
    · rintro c hc rfl
      exact hbehind hc
    · rintro c ⟨⟩
      decide
  | carriageReturnLineFeed => exact .carriageReturnLineFeed
  | single hend hx hu hoctal => exact .single hend hx hu hoctal
  | octal ht => exact .octal ht.append_dotJs
  | hex ha hb => exact .hex ha hb
  | unicode hdigits he => exact .unicode hdigits he
  | braced hdigits hn he => exact .braced hdigits hn he

/-- The extension is a body of its own (`Body`), made of three plain characters. -/
theorem body_dotJs (q : QuoteStyle) : Body q dotJs (dotJs.map .char) := by
  have hpart : ∀ c ∈ dotJs, ∀ behind, Part q [c] behind [.char c] := by
    intro c hc behind
    refine .plain ?_ ?_ ?_ ?_ <;> rintro rfl <;> revert hc
    · cases q <;> decide
    · decide
    · decide
    · decide
  exact .cons (hpart '.' (by decide) _) (.cons (hpart 'j' (by decide) _)
    (.cons (hpart 's' (by decide) _) .nil))

/-- A body with `.js` behind it has the same elements as before, and the three characters. -/
theorem Body.append_dotJs {body : Text} {es : List Element} (h : Body q body es) :
    Body q (body ++ dotJs) (es ++ dotJs.map .char) := by
  induction h with
  | nil => exact body_dotJs q
  | cons hpart _ ih =>
    rw [List.append_assoc, List.append_assoc]
    exact .cons hpart.append_dotJs ih

/-- The code units of characters are those of their text. -/
theorem flatMap_units_char (t : Text) :
    (t.map Element.char).flatMap Element.units = units t := by
  rw [List.flatMap_map]
  rfl

/-- A literal with `.js` in front of its closing quote has `.js` behind its value. -/
theorem isLiteral_append_dotJs {body value : Text} (h : IsLiteral q (q.quoted body) value) :
    IsLiteral q (q.quoted (body ++ dotJs)) (value ++ dotJs) := by
  obtain ⟨body', es, hraw, hbody, hvalue⟩ := h
  obtain ⟨-, rfl⟩ := QuoteStyle.quoted_injective hraw
  refine ⟨_, _, rfl, hbody.append_dotJs, ?_⟩
  rw [List.flatMap_append, hvalue, flatMap_units_char]
  exact List.flatMap_append.symm

/-! ## By the reader -/

/-! Characters behind a value are joined with nothing. -/

theorem joinPairs_char (c : Char) (es : List Element) :
    joinPairs (.char c :: es) = .char c :: joinPairs es := rfl

theorem joinPairs_chars (t : Text) : joinPairs (t.map .char) = t.map .char := by
  induction t with
  | nil => rfl
  | cons c t ih => rw [List.map_cons, joinPairs_char, ih]

theorem joinPairs_append (es : List Element) (t : Text) :
    joinPairs (es ++ t.map .char) = joinPairs es ++ t.map .char := by
  induction es with
  | nil => exact joinPairs_chars t
  | cons e es ih =>
    rw [List.cons_append]
    cases e with
    | char c => rw [joinPairs_char, joinPairs_char, ih, List.cons_append]
    | surrogate high joinable =>
      cases joinable with
      | false =>
        have hkept : ∀ es, joinPairs (.surrogate high false :: es) =
            .surrogate high false :: joinPairs es := fun _ => rfl
        rw [hkept, hkept, ih, List.cons_append]
      | true =>
        rw [joinPairs, joinPairs, ih]
        split
        · -- only the first element behind a high half matters
          rcases joinPairs es with _ | ⟨⟨c⟩ | ⟨low, joinable⟩, rest⟩
          · cases t with
            | nil => rfl
            | cons c t => rfl
          · rfl
          · cases joinable with
            | false => rfl
            | true =>
              simp only [List.cons_append]
              split
              · rfl
              · rfl
        · rfl

theorem plainText?_chars (t : Text) : plainText? (t.map .char) = some t := by
  induction t with
  | nil => rfl
  | cons c t ih => rw [List.map_cons, plainText?, ih, Option.map_some]

theorem plainText?_append (es : List Element) (t : Text) :
    plainText? (es ++ t.map .char) = (plainText? es).map (· ++ t) := by
  induction es with
  | nil => exact plainText?_chars t
  | cons e es ih =>
    rw [List.cons_append]
    cases e with
    | char c =>
      rw [plainText?, plainText?, ih]
      cases plainText? es with
      | none => rfl
      | some s => rfl
    | surrogate unit joinable => rfl

theorem markedText_append (es es' : List Element) :
    markedText (es ++ es') = markedText es ++ markedText es' := by
  induction es with
  | nil => rfl
  | cons e es ih =>
    rw [List.cons_append]
    cases e with
    | char c => rw [markedText, markedText, ih, List.append_assoc]
    | surrogate unit joinable =>
      rw [markedText, markedText, ih]
      simp only [List.cons_append, List.append_assoc]

/-- The `value` of elements with `.js` behind them. Joining halves of pairs and marking lone ones
does not reach the new characters, since none of them is a half. -/
theorem value_append_dotJs (es : List Element) :
    value (es ++ dotJs.map .char) = value es ++ dotJs := by
  simp only [value]
  rw [joinPairs_append, plainText?_append]
  cases plainText? (joinPairs es) with
  | none => exact markedText_append _ _
  | some t => rfl

/-- What the reader makes of a literal with `.js` in front of its closing quote, also where the
literal has no value by the rules. -/
theorem read_append_dotJs {body v : Text} (h : read (q.quoted body) = some v) :
    read (q.quoted (body ++ dotJs)) = some (v ++ dotJs) := by
  obtain ⟨q', body', es, hraw, hbody, rfl⟩ := read_eq_some_iff.mp h
  obtain ⟨rfl, rfl⟩ := QuoteStyle.quoted_injective hraw
  exact read_eq_some_iff.mpr
    ⟨q, _, _, rfl, hbody.append_dotJs, (value_append_dotJs es).symm⟩

/-- `read` has a value for whatever the rules allow, and literals with lone halves as well. -/
theorem IsLiteral.exists_read {raw v : Text} (h : IsLiteral q raw v) : ∃ w, read raw = some w := by
  obtain ⟨body, es, rfl, hbody, -⟩ := h
  exact ⟨_, read_eq_some_iff.mpr ⟨q, body, es, rfl, hbody, rfl⟩⟩

/-! ## The rewritten literal -/

/-- **The new text of a literal means its new value.** Let `raw` be a literal by the rules, with
the value `v`. The extension then succeeds on it, and what it writes is a literal again: one with
the same quotes and the value `v` with `.js` behind it, and no other quotes or value. The reader
takes both texts, and what it finds in them differs by `.js` as well. A literal of a program that
is rewritten from the text `raw`, be it its own or that of the source at its place, gets this
text and this value. -/
theorem extended_isLiteral {raw v : Text} (h : IsLiteral q raw v) :
    QuoteStyle.ofRaw raw = q ∧
    ∃ replacement, extended (some raw) v (QuoteStyle.ofRaw raw) = some replacement ∧
      (∀ q' w, IsLiteral q' replacement w ↔ q' = q ∧ w = v ++ dotJs) ∧
      (∃ w, read raw = some w ∧ read replacement = some (w ++ dotJs)) ∧
      ∀ (source : Text) (kind : ModuleKind) (verdict : Verdict) (l : Literal),
        l.text? source = some raw → l.value = v →
        ∃ e, l.rewritten source kind verdict =
            some (⟨v ++ dotJs, l.span, some replacement⟩, e) ∧
          e.quote = q ∧ e.original = raw ∧ e.replacement = replacement := by
  obtain ⟨w, hread⟩ := h.exists_read
  have hliteral := h
  obtain ⟨body, -, rfl, -, -⟩ := h
  have hnew := isLiteral_append_dotJs hliteral
  have hquote := QuoteStyle.ofRaw_quoted q body
  have hextended := extended_quoted q body v
  refine ⟨hquote, q.quoted (body ++ dotJs), ?_, fun q' w' => ⟨fun h' => ?_, ?_⟩,
    ⟨w, hread, read_append_dotJs hread⟩, ?_⟩
  · rw [hquote]
    exact hextended
  · exact h'.unique hnew
  · rintro ⟨rfl, rfl⟩
    exact hnew
  · rintro source kind verdict l htext rfl
    simp only [Literal.rewritten]
    simp only [htext, Option.map_some, Option.getD_some, hquote, hextended]
    exact ⟨_, rfl, rfl, rfl, rfl⟩

/-- An octal escape at the end of a literal does not go on with the extension, and its value ends
with the character `\0` and `.js`. -/
theorem extended_isLiteral_octal_end :
    let raw := "'./\\0'".toList
    let v := "./\x00".toList
    IsLiteral .single raw v ∧ extended (some raw) v .single = some "'./\\0.js'".toList ∧
      IsLiteral .single "'./\\0.js'".toList "./\x00.js".toList ∧
      ∃ e, (⟨v, ⟨7, 13⟩, some raw⟩ : Literal).rewritten [] .importDeclaration .relative =
        some (⟨"./\x00.js".toList, ⟨7, 13⟩, some "'./\\0.js'".toList⟩, e) := by
  intro raw v
  have hoctal : Part .single ['\\', '0'] [] [.char '\x00'] :=
    .octal (.one (x := 0) (by decide) (by simp))
  have hbody : Body .single ['.', '/', '\\', '0'] [.char '.', .char '/', .char '\x00'] :=
    .cons (.plain (by decide) (by decide) (by decide) (by decide))
      (.cons (.plain (by decide) (by decide) (by decide) (by decide)) (.cons hoctal .nil))
  have hliteral : IsLiteral .single raw v := ⟨_, _, rfl, hbody, by decide⟩
  obtain ⟨-, replacement, hextended, hmeans, -, hrewritten⟩ := extended_isLiteral hliteral
  have htext : (⟨v, ⟨7, 13⟩, some raw⟩ : Literal).text? [] = some raw := by decide
  have hnew : extended (some raw) v .single = some "'./\\0.js'".toList := by decide
  have hsame : replacement = "'./\\0.js'".toList :=
    Option.some.inj (hextended.symm.trans hnew)
  subst hsame
  obtain ⟨e, he, -⟩ := hrewritten [] .importDeclaration .relative _ htext rfl
  exact ⟨hliteral, hnew, (hmeans _ _).mpr ⟨rfl, rfl⟩, e, he⟩

end DotJs.StringLiteral
