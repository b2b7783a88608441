import DotJs.Proofs.Patch
import DotJs.Proofs.Quoted
import DotJs.Proofs.Walk

/-!
# Literals that cannot be extended

A literal is extended at a text: its own, or what stands at its place in the source if it has none
of its own. `Literal.HasText` says which text that is. It has to be opened by a quote. Nothing has
been asked of its end: the last character is taken for the closing quote, which is a single byte, so
that a last character of several bytes cannot be taken off.

* `StringLiteral.inner?_eq_none_iff` says that this is the only way in which extending fails;
* `Literal.rewritten_eq_none_iff` says so of rewriting a literal: its value and its place may be
  anything, and without a text it is written from its value;
* `Literal.exists_rewritten_of_closed`: a quote at the end is enough;
* `Program.rewritten_fails_iff` finds the literals in a program for which it matters.
-/

namespace DotJs

/-- Whether a literal is extended at a text. The text is that of the literal (`raw`), or the one at
its place if it has none. It has at least two bytes and is opened by a quote; a text without these
is not used, and the literal is written from its value. -/
structure Literal.HasText (source : Text) (l : Literal) (t : Text) : Prop where
  /-- it is the text of the literal, or stands at its place -/
  known : l.raw = some t ∨ l.raw = none ∧ ∃ before behind, source = before ++ (t ++ behind) ∧
    before.size = l.span.start ∧ l.span.start + t.size = l.span.stop
  /-- there is room for two quotes -/
  long : 2 ≤ t.size
  /-- the first character is a quote -/
  opened : ∃ q : QuoteStyle, t.head? = some q.char

/-! ## One literal -/

variable {rules : Rules} {source : Text}

theorem Literal.text?_eq_some_iff {l : Literal} {t : Text} :
    l.text? source = some t ↔ l.HasText source t := by
  have hquote : (t.head? == some '\'' || t.head? == some '"') = true ↔
      ∃ q : QuoteStyle, t.head? = some q.char := by
    simp only [Bool.or_eq_true, beq_iff_eq]
    constructor
    · rintro (h | h)
      · exact ⟨.single, h⟩
      · exact ⟨.double, h⟩
    · rintro ⟨q, h⟩
      cases q with
      | single => exact .inl h
      | double => exact .inr h
  obtain ⟨value, span, raw⟩ := l
  cases raw with
  | some raw =>
    simp only [Literal.text?]
    rw [Option.filter_eq_some_iff, Bool.and_eq_true, hquote, decide_eq_true_eq]
    constructor
    · rintro ⟨hknown, hlong, hopened⟩
      exact ⟨.inl hknown, hlong, hopened⟩
    · rintro ⟨hknown | ⟨hnone, -⟩, hlong, hopened⟩
      · exact ⟨hknown, hlong, hopened⟩
      · cases hnone
  | none =>
    simp only [Literal.text?]
    rw [Option.filter_eq_some_iff, Bool.and_eq_true, hquote, decide_eq_true_eq,
      Text.slice?_eq_some_iff]
    constructor
    · rintro ⟨hknown, hlong, hopened⟩
      exact ⟨.inr ⟨rfl, hknown⟩, hlong, hopened⟩
    · rintro ⟨hsome | ⟨-, hknown⟩, hlong, hopened⟩
      · cases hsome
      · exact ⟨hknown, hlong, hopened⟩

/-- A literal with a text of its own is extended at no other, wherever it stands. -/
theorem Literal.HasText.eq_of_raw {l : Literal} {t raw : Text} (h : l.HasText source t)
    (hraw : l.raw = some raw) : t = raw := by
  rcases h.known with hknown | ⟨hnone, -⟩
  · exact Option.some.inj (hknown.symm.trans hraw)
  · rw [hraw] at hnone
    cases hnone

/-- What stands behind the first character of a text cannot be read as a body and a closing quote
(`inner?`) just when it ends with a character of several bytes. -/
theorem StringLiteral.inner?_eq_none_iff {raw : Text} :
    inner? raw = none ↔ ∃ c, (raw.drop 1).getLast? = some c ∧ 1 < c.utf8Size := by
  simp only [inner?]
  split
  · next hnil => simp [hnil]
  · next c rest hcons =>
    have hpos := ((c :: rest).getLast (List.cons_ne_nil c rest)).utf8Size_pos
    rw [hcons, List.getLast?_eq_some_getLast (List.cons_ne_nil c rest)]
    constructor
    · intro h
      split at h
      · cases h
      · next hsize => exact ⟨_, rfl, by omega⟩
    · rintro ⟨d, hd, hsize⟩
      obtain rfl := Option.some.inj hd
      rw [if_neg (by omega)]

/-- The last character of a text that a quote opens stands behind that quote. -/
theorem Literal.HasText.getLast?_drop {l : Literal} {t : Text} (h : l.HasText source t) :
    (t.drop 1).getLast? = t.getLast? := by
  obtain ⟨q, hq⟩ := h.opened
  have hlong := h.long
  match t, hq with
  | [c], hq =>
    obtain rfl : c = q.char := Option.some.inj hq
    rw [Text.size_cons, Text.size_nil, q.utf8Size_char] at hlong
    omega
  | c :: d :: rest, _ => rfl

/-- **A literal cannot be rewritten just when the text at which it is extended ends with a character
of several bytes.** `Literal.HasText` says which text this is. -/
theorem Literal.rewritten_eq_none_iff {l : Literal} {kind : ModuleKind} {verdict : Verdict} :
    l.rewritten source kind verdict = none ↔
      ∃ t c, l.HasText source t ∧ t.getLast? = some c ∧ 1 < c.utf8Size := by
  have hfails : l.rewritten source kind verdict = none ↔
      ∃ t, l.text? source = some t ∧ StringLiteral.inner? t = none := by
    simp only [Literal.rewritten]
    cases htext : l.text? source with
    | none => simp [StringLiteral.extended]
    | some t =>
      cases hinner : StringLiteral.inner? t with
      | none => simp [StringLiteral.extended, hinner]
      | some body => simp [StringLiteral.extended, hinner]
  rw [hfails]
  constructor
  · rintro ⟨t, ht, hinner⟩
    have htext := text?_eq_some_iff.mp ht
    obtain ⟨c, hc, hsize⟩ := StringLiteral.inner?_eq_none_iff.mp hinner
    exact ⟨t, c, htext, htext.getLast?_drop ▸ hc, hsize⟩
  · rintro ⟨t, c, htext, hc, hsize⟩
    exact ⟨t, text?_eq_some_iff.mpr htext,
      StringLiteral.inner?_eq_none_iff.mpr ⟨c, htext.getLast?_drop.trans hc, hsize⟩⟩

/-- A literal can be rewritten if a quote closes the text at which it is extended. -/
theorem Literal.exists_rewritten_of_closed {l : Literal}
    (h : ∀ t, l.HasText source t → ∃ q : QuoteStyle, t.getLast? = some q.char)
    (kind : ModuleKind) (verdict : Verdict) : ∃ r, l.rewritten source kind verdict = some r := by
  rcases hrewritten : l.rewritten source kind verdict with _ | r
  · obtain ⟨t, c, htext, hc, hsize⟩ := rewritten_eq_none_iff.mp hrewritten
    obtain ⟨q, hq⟩ := h t htext
    obtain rfl := Option.some.inj (hc.symm.trans hq)
    rw [q.utf8Size_char] at hsize
    omega
  · exact ⟨r, rfl⟩

/-! ## A whole program -/

namespace Program

/-- **Rewriting fails only at a literal that it would rewrite.** A program cannot be rewritten just
when the text (`Literal.HasText`) of the literal of an outermost node (`IsOutermost`) ends with a
character of several bytes. Values, places and the texts of all other literals do not matter,
whatever they are. So any program can be rewritten in which each text at which a literal is extended
ends with a quote. -/
theorem rewritten_fails_iff (rules : Rules) (source : Text) (program : Program) :
    (program.rewritten rules source = none ↔
      ∃ a n l t c, program.IsOutermost rules a n ∧ n.specifier = .literal l ∧
        l.HasText source t ∧ t.getLast? = some c ∧ 1 < c.utf8Size) ∧
    ((∀ l ∈ program.literals, ∀ t, l.HasText source t →
        ∃ q : QuoteStyle, t.getLast? = some q.char) →
      ∃ program' edits, program.rewritten rules source = some (program', edits)) := by
  refine ⟨?_, fun hclosed => ?_⟩
  · rw [Program.rewritten, Option.map_eq_none_iff, rewrittenNodes_eq_none_iff]
    constructor
    · rintro ⟨a, n, l, hn, hl, hfails⟩
      obtain ⟨t, c, htext, hc, hsize⟩ := Literal.rewritten_eq_none_iff.mp hfails
      exact ⟨a, n, l, t, c, hn, hl, htext, hc, hsize⟩
    · rintro ⟨a, n, l, t, c, hn, hl, htext, hc, hsize⟩
      exact ⟨a, n, l, hn, hl, Literal.rewritten_eq_none_iff.mpr ⟨t, c, htext, hc, hsize⟩⟩
  · obtain ⟨program', edits, hwalk⟩ := exists_rewrittenNodes rules source
      fun l hl => Literal.exists_rewritten_of_closed (hclosed l hl)
    exact ⟨program', stableSort Edit.startsBefore edits, by
      rw [Program.rewritten, hwalk, Option.map_some]⟩

/-- A text without a closing quote stops rewriting if it ends with `é`, unless the literal is inside
a rewritten node. The other literals are one with a text in the source, one with a place that runs
backwards, and one whose text is too short to be used. -/
theorem rewritten_fails_iff_open :
    let rules : Rules := ⟨[], [], true⟩
    let source := "import\"./é\"".toList
    let unclosed : Literal := ⟨"./aé".toList, ⟨0, 0⟩, some "'./aé".toList⟩
    let quoted : List Node :=
      [.mk .importDeclaration 0 (.literal ⟨"./é".toList, ⟨6, 12⟩, none⟩) [],
        .mk .exportAll 0 (.literal ⟨"./é".toList, ⟨9, 3⟩, none⟩) [],
        .mk .exportAll 0 (.literal ⟨"./b".toList, ⟨8, 9⟩, some "'".toList⟩) []]
    let outer : Node :=
      .mk .dynamicImport 0 (.literal ⟨"./a".toList, ⟨0, 0⟩, some "'./a'".toList⟩)
        [.mk .dynamicImport 0 (.literal unclosed) []]
    Program.rewritten rules source (quoted ++ [.mk .dynamicImport 0 (.literal unclosed) []]) =
        none ∧
    (Program.rewritten rules source [outer]).isSome ∧
    (∀ l ∈ Program.literals quoted, ∀ t, l.HasText source t →
      ∃ q : QuoteStyle, t.getLast? = some q.char) ∧
    ∃ program' edits, Program.rewritten rules source quoted = some (program', edits) := by
  intro rules source unclosed quoted outer
  have hunclosed : unclosed.HasText source "'./aé".toList :=
    ⟨.inl rfl, by decide +kernel, .single, rfl⟩
  have houtermost : Program.IsOutermost rules
      (quoted ++ [.mk .dynamicImport 0 (.literal unclosed) []]) [3]
      (.mk .dynamicImport 0 (.literal unclosed) []) :=
    isOutermost_tail_iff.mpr (isOutermost_tail_iff.mpr (isOutermost_tail_iff.mpr
      (isOutermost_head_iff.mpr ⟨rfl, by decide +kernel⟩)))
  have hends : ∀ l ∈ Program.literals quoted, ∀ t, l.HasText source t →
      ∃ q : QuoteStyle, t.getLast? = some q.char := by
    have htexts : ∀ l ∈ Program.literals quoted,
        l.text? source = none ∨ l.text? source = some ("\"./é\"".toList) := by decide +kernel
    intro l hl t ht
    rcases htexts l hl with hnone | hsome
    · rw [Literal.text?_eq_some_iff.mpr ht] at hnone
      cases hnone
    · obtain rfl := Option.some.inj ((Literal.text?_eq_some_iff.mpr ht).symm.trans hsome)
      exact ⟨.double, rfl⟩
  exact ⟨(rewritten_fails_iff rules source _).1.mpr
      ⟨[3], _, unclosed, _, 'é', houtermost, rfl, hunclosed, rfl, by decide⟩,
    by decide +kernel, hends, (rewritten_fails_iff rules source quoted).2 hends⟩

end Program

end DotJs
