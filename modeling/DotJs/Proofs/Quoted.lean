import DotJs.StringLiteral

/-!
# Texts between quotes

`QuoteStyle.quoted` puts a text between two equal quotes. A literal with such a text is
extended inside its quotes: `.js` goes to the end of what stands between them.
-/

namespace DotJs

namespace QuoteStyle

/-- A text between two equal quotes (`QuoteStyle.char`), which is the form of the raw text of every
string literal. -/
def quoted (q : QuoteStyle) (body : Text) : Text := q.char :: (body ++ [q.char])

@[simp] theorem utf8Size_char (q : QuoteStyle) : q.char.utf8Size = 1 := by
  cases q <;> decide

theorem backslash_ne_char (q : QuoteStyle) : '\\' ≠ q.char := by
  cases q <;> decide

theorem char_injective {q q' : QuoteStyle} (h : q.char = q'.char) : q = q' := by
  cases q <;> cases q' <;> first | rfl | exact absurd h (by decide)

theorem size_quoted (q : QuoteStyle) (body : Text) : (q.quoted body).size = body.size + 2 := by
  rw [quoted, Text.size_cons, Text.size_append, Text.size_cons, Text.size_nil, utf8Size_char]
  omega

theorem getLast?_quoted (q : QuoteStyle) (body : Text) :
    (q.quoted body).getLast? = some q.char := by
  rw [quoted, ← List.cons_append, List.getLast?_concat]

/-- The style of a text between quotes is that of its quotes: `ofRaw` looks at the first
character. -/
theorem ofRaw_quoted (q : QuoteStyle) (body : Text) : ofRaw (q.quoted body) = q := by
  cases q with
  | single => rfl
  | double => rfl

theorem quoted_injective {q q' : QuoteStyle} {body body' : Text}
    (h : q.quoted body = q'.quoted body') : q = q' ∧ body = body' := by
  obtain ⟨hchar, hrest⟩ := List.cons.inj h
  obtain rfl := char_injective hchar
  exact ⟨rfl, List.append_cancel_right hrest⟩

end QuoteStyle

namespace StringLiteral

theorem inner?_quoted (q : QuoteStyle) (body : Text) : inner? (q.quoted body) = some body := by
  have hdrop : (q.quoted body).drop 1 = body ++ [q.char] := rfl
  simp only [inner?]
  rw [hdrop]
  split
  · next hnil => exact absurd hnil (List.append_ne_nil_of_right_ne_nil body (List.cons_ne_nil _ _))
  · next c rest hcons =>
    have hlast : (c :: rest).getLast (List.cons_ne_nil c rest) = q.char := by
      simp only [← hcons, List.getLast_concat]
    rw [hlast, if_pos q.utf8Size_char, ← hcons, List.dropLast_concat]

/-- The extension of a text between quotes goes to the end of what they enclose. The value has no
part in it: `extended` uses it only when there is no text. -/
theorem extended_quoted (q : QuoteStyle) (body value : Text) :
    extended (some (q.quoted body)) value q = some (q.quoted (body ++ dotJs)) := by
  rw [extended, inner?_quoted, Option.map_some, QuoteStyle.quoted, List.cons_append,
    List.cons_append]

end StringLiteral

end DotJs
