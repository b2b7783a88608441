import DotJs.Proofs.LiteralExtension

/-!
# Values written as literals

The literal of a value whose text is not known is written from the value: its backslashes are
escaped, then its quotes, then `.js` comes behind, and the whole is put between quotes.

* `escape_eq_backslashed`: escaping in one pass is the same as doing so in these two rounds;
* `readBody_escape_cons`: the reader takes each written character back to the one that it stands
  for, and no quote among them closes the literal;
* `readBody_escape_eq_none`: it stops for good at the end of a line, which is written as it is.

`extended_none_isLiteral_iff` says what this makes of the literal: it is one, with the value that
was written, just when no line ends in the value.
-/

namespace DotJs.StringLiteral

variable {q : QuoteStyle} {c : Char} {v : Text}

/-! ## Writing -/

/-- A text with a backslash in front of each occurrence of one character. Two of these in turn are
what a literal is written by (`escape_eq_backslashed`). -/
def backslashed (c : Char) (t : Text) : Text := t.flatMap fun d => if d = c then ['\\', d] else [d]

theorem escape_cons (q : QuoteStyle) (c : Char) (v : Text) :
    escape q (c :: v) = escape q [c] ++ escape q v := by
  by_cases hc : c = '\\' ∨ c = q.char
  · simp only [escape, if_pos hc, List.cons_append, List.nil_append]
  · simp only [escape, if_neg hc, List.cons_append, List.nil_append]

/-- Backslashes can be escaped first and quotes afterwards (`backslashed`), as a quote is no
backslash. The other order would escape the new backslashes too. -/
theorem escape_eq_backslashed (q : QuoteStyle) (v : Text) :
    escape q v = backslashed q.char (backslashed '\\' v) := by
  induction v with
  | nil => rfl
  | cons c v ih =>
    have hrounds : backslashed q.char (backslashed '\\' (c :: v)) =
        backslashed q.char (backslashed '\\' [c]) ++ backslashed q.char (backslashed '\\' v) := by
      simp only [backslashed, List.flatMap_cons, List.flatMap_nil, List.append_nil,
        List.flatMap_append]
    rw [escape_cons, ih, hrounds]
    congr 1
    by_cases hescape : c = '\\'
    · simp [escape, backslashed, hescape, q.backslash_ne_char]
    · by_cases hc : c = q.char
      · simp [escape, backslashed, hc, q.backslash_ne_char.symm]
      · simp [escape, backslashed, hescape, hc]

/-! ## Reading what was written -/

/-- The reader takes a written character as a whole, be it one character or an escape of two. -/
theorem readBody_escape_cons (v tail : Text) (hlf : c ≠ '\n') (hcr : c ≠ '\r') :
    readBody q.char .plain (escape q (c :: v) ++ tail) =
      ahead [.char c] (escape q [c]).length (readBody q.char .plain (escape q v ++ tail)) := by
  by_cases hc : c = '\\' ∨ c = q.char
  · have hstep : Progress.step c .escape = some (.plain, [.char c]) := by
      rcases hc with rfl | rfl
      · rfl
      · cases q <;> rfl
    simp only [escape, if_pos hc, List.cons_append]
    rw [readBody_cons (.inl q.backslash_ne_char) step_plain_backslash,
      readBody_cons (.inr rfl) hstep, ahead_ahead]
    rfl
  · obtain ⟨hescape, hquote⟩ := not_or.mp hc
    have hstep : Progress.step c .plain = some (.plain, [.char c]) := by
      simp [Progress.step, Progress.afterPlain, hescape, hlf, hcr]
    simp only [escape, if_neg hc, List.cons_append]
    rw [readBody_cons (.inl hquote) hstep]
    rfl

/-- A value without ends of lines is read back to its characters, whatever comes behind. -/
theorem readBody_escape (tail : Text) (hlf : '\n' ∉ v) (hcr : '\r' ∉ v) :
    readBody q.char .plain (escape q v ++ tail) =
      ahead (v.map .char) (escape q v).length (readBody q.char .plain tail) := by
  induction v with
  | nil =>
    rw [escape, List.nil_append]
    cases readBody q.char .plain tail with
    | none => rfl
    | some r => rfl
  | cons c v ih =>
    rw [List.mem_cons, not_or] at hlf hcr
    rw [readBody_escape_cons v tail (Ne.symm hlf.1) (Ne.symm hcr.1), ih hlf.2 hcr.2, ahead_ahead,
      escape_cons q c v, List.length_append, Nat.add_comm]
    rfl

/-- The reader does not get past the end of a line in a value, which `escape` leaves as it is. -/
theorem readBody_escape_eq_none (tail : Text) (h : '\n' ∈ v ∨ '\r' ∈ v) :
    readBody q.char .plain (escape q v ++ tail) = none := by
  induction v with
  | nil => simp at h
  | cons c v ih =>
    by_cases hc : c = '\n' ∨ c = '\r'
    · -- it is no character that would be escaped, and ends the literal where it stands
      have hplain : ¬(c = '\\' ∨ c = q.char) := by
        rcases hc with rfl | rfl <;> cases q <;> decide
      have hstep : Progress.step c .plain = none := by
        rcases hc with rfl | rfl <;> rfl
      rw [escape, if_neg hplain, List.cons_append, readBody, if_neg fun hq => hplain (.inr hq.1),
        hstep]
    · obtain ⟨hlf, hcr⟩ := not_or.mp hc
      have hrest : '\n' ∈ v ∨ '\r' ∈ v := by
        simpa only [List.mem_cons, Ne.symm hlf, Ne.symm hcr, false_or] using h
      rw [readBody_escape_cons v tail hlf hcr, ih hrest]
      rfl

theorem value_chars (t : Text) : value (t.map .char) = t := by
  simp only [value, joinPairs_chars, plainText?_chars]

/-! ## The literal -/

/-- Up to the closing quote, the reader finds the value `v` and the extension. -/
theorem readBody_written (hlf : '\n' ∉ v) (hcr : '\r' ∉ v) :
    readBody q.char .plain (escape q v ++ dotJs ++ [q.char]) =
      some ((v ++ dotJs).map .char, (escape q v ++ dotJs).length + 1, []) := by
  rw [List.append_assoc, readBody_escape _ hlf hcr, readBody_of_body [] (body_dotJs q)]
  simp only [ahead, Option.map_some, List.map_append, List.length_append]
  rw [Nat.add_right_comm, Nat.add_comm dotJs.length]

/-- A written value is a body by the rules of `Body`. -/
theorem body_written (hlf : '\n' ∉ v) (hcr : '\r' ∉ v) :
    Body q (escape q v ++ dotJs) ((v ++ dotJs).map .char) := by
  obtain ⟨body, hsame, -, hbody⟩ := readBody_eq_some_iff.mp (readBody_written (q := q) hlf hcr)
  rwa [List.append_cancel_right hsame]

/-- A literal with which a written value starts is all of it. Its quotes are the same, since its
first character is. -/
theorem eq_of_written_starts {q' : QuoteStyle} {body behind : Text} {es : List Element}
    (heq : q.quoted (escape q v ++ dotJs) = q'.quoted body ++ behind) (hbody : Body q' body es) :
    ('\n' ∉ v ∧ '\r' ∉ v) ∧ q' = q ∧ es = (v ++ dotJs).map .char ∧ behind = [] := by
  obtain ⟨hchar, hrest⟩ := List.cons.inj heq
  obtain rfl := QuoteStyle.char_injective hchar
  -- the reader has met the closing quote of that literal, and can have met only the last one
  have hclosed := readBody_of_body behind hbody
  rw [(List.append_cons body q.char behind).trans hrest.symm] at hclosed
  by_cases hline : '\n' ∈ v ∨ '\r' ∈ v
  · rw [List.append_assoc, readBody_escape_eq_none _ hline] at hclosed
    cases hclosed
  · obtain ⟨hlf, hcr⟩ := not_or.mp hline
    rw [readBody_written hlf hcr] at hclosed
    obtain ⟨hes, hrest⟩ := Prod.mk.inj (Option.some.inj hclosed)
    exact ⟨⟨hlf, hcr⟩, rfl, hes.symm, (Prod.mk.inj hrest).2.symm⟩

/-- **A value is written as its literal just when no line ends in it.** The text has a backslash
(`backslashed`) in front of each backslash and each quote of the value, and `.js` behind it, between
quotes. As long as the value has no line feed and no carriage return, this is a literal
(`IsLiteral`) whose value is the old one with `.js` behind it. No quote or backslash in it ends the
literal early or changes the value: whatever literal the text starts with is the whole text, and its
elements are the characters of that value. With a line feed or a carriage return in the value, the
text does not even start with a literal. The reader agrees. -/
theorem extended_none_isLiteral_iff (q : QuoteStyle) (v : Text) :
    let raw := q.quoted (backslashed q.char (backslashed '\\' v) ++ dotJs)
    extended none v q = some raw ∧
    (IsLiteral q raw (v ++ dotJs) ↔ '\n' ∉ v ∧ '\r' ∉ v) ∧
    (∀ q' body es behind, raw = QuoteStyle.quoted q' body ++ behind → Body q' body es →
      ('\n' ∉ v ∧ '\r' ∉ v) ∧ q' = q ∧ es = (v ++ dotJs).map .char ∧ behind = []) ∧
    read raw = if '\n' ∈ v ∨ '\r' ∈ v then none else some (v ++ dotJs) := by
  intro raw
  have hraw : raw = q.quoted (escape q v ++ dotJs) := by rw [escape_eq_backslashed]
  rw [hraw]
  refine ⟨rfl, ⟨?_, ?_⟩, fun q' body es behind => eq_of_written_starts, ?_⟩
  · rintro ⟨body, es, heq, hbody, -⟩
    exact (eq_of_written_starts (heq.trans (List.append_nil _).symm) hbody).1
  · rintro ⟨hlf, hcr⟩
    exact ⟨_, _, rfl, body_written hlf hcr, flatMap_units_char _⟩
  · split
    · next hline =>
      refine Option.eq_none_iff_forall_ne_some.mpr fun w hw => ?_
      obtain ⟨q', body, es, heq, hbody, -⟩ := read_eq_some_iff.mp hw
      obtain ⟨⟨hlf, hcr⟩, -⟩ := eq_of_written_starts (heq.trans (List.append_nil _).symm) hbody
      exact absurd hline (not_or.mpr ⟨hlf, hcr⟩)
    · next hline =>
      obtain ⟨hlf, hcr⟩ := not_or.mp hline
      exact read_eq_some_iff.mpr ⟨q, _, _, rfl, body_written hlf hcr, (value_chars _).symm⟩

end DotJs.StringLiteral
