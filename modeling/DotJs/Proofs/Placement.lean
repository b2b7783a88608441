import DotJs.Proofs.LiteralText
import DotJs.Proofs.SortedLists

/-!
# Literals at their places

`Program.IsPlaced` is what a parser promises of the literals of a program: each has a text
between equal quotes, the source has this text at the literal's place, and no two places
overlap. `Source.parse_isPlaced` says that the parser here keeps the promise.

A program whose literals are placed can be rewritten (`Program.exists_rewritten`). Its edits lie
apart from each other, in the order of the source (`Program.rewritten_apart`), and each puts
`.js` behind what the quotes enclose (`Edit.IsOf.quoted`).
-/

namespace DotJs

/-- Whether a literal stands at its place in a source: its text is there, between two equal quotes
(`QuoteStyle.quoted`). Nothing is said of its value, which no edit is made from while there is a
text. -/
def Literal.IsPlaced (source : Text) (l : Literal) : Prop :=
  ∃ (q : QuoteStyle) (body : Text), l.raw = some (q.quoted body) ∧
    source.slice? l.span.start l.span.stop = some (q.quoted body)

/-- Whether the `literals` of a program stand at their places in a source, which do not overlap. It
is all that rewriting needs to know of a parser, so that the theorems with this hypothesis hold of
any parser that keeps the promise. -/
structure Program.IsPlaced (source : Text) (program : Program) : Prop where
  /-- each literal stands at its place -/
  placed : ∀ l ∈ program.literals, l.IsPlaced source
  /-- of any two literals, one ends before the other starts -/
  apart : program.literals.Pairwise fun a b =>
    a.span.stop ≤ b.span.start ∨ b.span.stop ≤ a.span.start

/-! ## The parser's promise -/

theorem Source.isQuoted_iff {raw : Text} :
    Source.isQuoted raw ↔ ∃ (q : QuoteStyle) (body : Text), raw = q.quoted body := by
  constructor
  · intro h
    simp only [Source.isQuoted] at h
    simp only [Bool.and_eq_true, Bool.or_eq_true, decide_eq_true_eq, beq_iff_eq] at h
    obtain ⟨⟨hlength, hhead⟩, hlast⟩ := h
    obtain ⟨q, hq⟩ : ∃ q : QuoteStyle, raw.head? = some q.char := by
      rcases hhead with hhead | hhead
      · exact ⟨.single, hhead⟩
      · exact ⟨.double, hhead⟩
    rcases raw with _ | ⟨c, rest⟩
    · cases hq
    · obtain rfl : c = q.char := Option.some.inj hq
      rcases List.eq_nil_or_concat rest with rfl | ⟨body, d, rfl⟩
      · simp at hlength
      · rw [hq, List.concat_eq_append, ← List.cons_append, List.getLast?_concat] at hlast
        obtain rfl : d = q.char := Option.some.inj hlast
        exact ⟨q, body, by rw [List.concat_eq_append]; rfl⟩
  · rintro ⟨q, body, rfl⟩
    simp only [Source.isQuoted]
    rw [q.getLast?_quoted body]
    cases q <;> simp [QuoteStyle.quoted, QuoteStyle.char]

theorem Source.isPlaced_iff {source : Text} {l : Literal} :
    Source.isPlaced source l ↔ l.IsPlaced source := by
  simp only [Source.isPlaced, Literal.IsPlaced]
  cases l.raw with
  | none => simp
  | some raw =>
    simp only [Bool.and_eq_true, beq_iff_eq, Source.isQuoted_iff, Option.some.injEq]
    constructor
    · rintro ⟨⟨q, body, rfl⟩, hslice⟩
      exact ⟨q, body, rfl, hslice⟩
    · rintro ⟨q, body, rfl, hslice⟩
      exact ⟨⟨q, body, rfl⟩, hslice⟩

theorem Source.isWellPlaced_iff {source : Text} {program : Program} :
    Source.isWellPlaced source program ↔ program.IsPlaced source := by
  simp only [Source.isWellPlaced]
  simp only [Bool.and_eq_true, List.all_eq_true, decide_eq_true_eq, Source.isPlaced_iff]
  exact ⟨fun ⟨hplaced, hapart⟩ => ⟨hplaced, hapart⟩, fun h => ⟨h.placed, h.apart⟩⟩

/-- The literals of a program that was read from a source stand at their places: `Source.parse`
answers with nothing else, since `Source.isWellPlaced` is its last test. -/
theorem Source.parse_isPlaced {language : Language} {source : Text} {program : Program}
    (h : Source.parse language source = some program) : program.IsPlaced source := by
  simp only [Source.parse] at h
  split at h
  · split at h
    · next s _ hok =>
      obtain rfl := Option.some.inj h
      exact Source.isWellPlaced_iff.mp (Bool.and_eq_true_iff.mp hok).2
    · cases h
  · cases h

/-! ## Rewriting placed literals -/

variable {rules : Rules} {source : Text}

/-- The text of a placed literal is its `raw` text, not the slice of the source at its span,
although here the two agree. -/
theorem Literal.text?_of_raw (source : Text) {l : Literal} {q : QuoteStyle} {body : Text}
    (h : l.raw = some (q.quoted body)) : l.text? source = some (q.quoted body) := by
  have hsize : 2 ≤ (q.quoted body).size := by
    rw [QuoteStyle.size_quoted]
    omega
  exact text?_eq_some_iff.mpr ⟨.inl h, hsize, q, rfl⟩

theorem Literal.IsPlaced.exists_rewritten {l : Literal} (h : l.IsPlaced source)
    (kind : ModuleKind) (verdict : Verdict) : ∃ r, l.rewritten source kind verdict = some r := by
  obtain ⟨q, body, hraw, -⟩ := h
  refine exists_rewritten_of_closed (fun t ht => ?_) kind verdict
  rw [ht.eq_of_raw hraw]
  exact ⟨q, q.getLast?_quoted body⟩

/-- The edit of a placed literal lies at its place, and puts `.js` behind what the quotes enclose.
Escapes in `body` are left alone. -/
theorem Edit.IsOf.quoted {n : Node} {l : Literal} {e : Edit} (he : e.IsOf rules source n l)
    (hl : l.IsPlaced source) :
    ∃ (q : QuoteStyle) (body : Text), l.raw = some e.original ∧ e.original = q.quoted body ∧
      e.replacement = q.quoted (body ++ dotJs) ∧
      source.slice? e.span.start e.span.stop = some e.original := by
  obtain ⟨q, body, hraw, hslice⟩ := hl
  have htext := Literal.text?_of_raw source hraw
  have horiginal : e.original = q.quoted body := by
    rw [he.original, htext]
    rfl
  have hquote : e.quote = q := by
    rw [he.quote, htext, Option.map_some, QuoteStyle.ofRaw_quoted]
    rfl
  have hreplacement := he.replacement
  rw [htext, hquote, StringLiteral.extended_quoted] at hreplacement
  refine ⟨q, body, ?_, horiginal, (Option.some.inj hreplacement).symm, ?_⟩
  · rw [hraw, horiginal]
  · rw [he.span, hslice, horiginal]

namespace Program

variable {program program' : Program} {edits : List Edit}

/-- The edits of a program are those of a walk, in the order of their places: `Program.rewritten` is
`rewrittenNodes` with the edits sorted. -/
theorem rewritten_eq_some_iff : program.rewritten rules source = some (program', edits) ↔
    ∃ es, Walks rules source program program' es ∧ edits = stableSort Edit.startsBefore es := by
  simp only [Program.rewritten]
  simp only [Option.map_eq_some_iff, Prod.mk.injEq, Prod.exists, rewrittenNodes_eq_some_iff]
  constructor
  · rintro ⟨p, es, hwalk, rfl, rfl⟩
    exact ⟨es, hwalk, rfl⟩
  · rintro ⟨es, hwalk, rfl⟩
    exact ⟨program', es, hwalk, rfl, rfl⟩

/-- A program with placed literals (`IsPlaced`) can be rewritten, since the extension can be added
to any text between quotes. -/
theorem exists_rewritten (rules : Rules) (h : program.IsPlaced source) :
    ∃ program' edits, program.rewritten rules source = some (program', edits) := by
  obtain ⟨program', es, hwalk⟩ := exists_rewrittenNodes rules source
    fun l hl kind verdict => (h.placed l hl).exists_rewritten kind verdict
  exact ⟨program', _, rewritten_eq_some_iff.mpr ⟨es, rewrittenNodes_eq_some_iff.mp hwalk, rfl⟩⟩

theorem startsBefore_total (a b : Edit) (h : a.startsBefore b = false) : b.startsBefore a := by
  simp only [Edit.startsBefore] at *
  simp only [decide_eq_false_iff_not, decide_eq_true_eq] at *
  omega

theorem startsBefore_trans (a b c : Edit) (hab : a.startsBefore b) (hbc : b.startsBefore c) :
    a.startsBefore c := by
  simp only [Edit.startsBefore] at *
  simp only [decide_eq_true_eq] at *
  omega

/-- The edits of a program are sorted by the start of their places (`Edit.startsBefore`), whether or
not its literals are placed. -/
theorem rewritten_pairwise (h : program.rewritten rules source = some (program', edits)) :
    edits.Pairwise fun a b => a.span.start ≤ b.span.start := by
  obtain ⟨es, -, rfl⟩ := rewritten_eq_some_iff.mp h
  refine (stableSort_pairwise startsBefore_total startsBefore_trans es).imp fun hab => ?_
  exact of_decide_eq_true hab

/-- Each edit of a program is about one of its `literals`, and `Edit.IsOf` tells how it was
rewritten. -/
theorem exists_literal_of_mem (h : program.rewritten rules source = some (program', edits))
    {e : Edit} (he : e ∈ edits) : ∃ l ∈ program.literals, ∃ n, e.IsOf rules source n l := by
  obtain ⟨es, hwalk, rfl⟩ := rewritten_eq_some_iff.mp h
  obtain ⟨rs, rfl, hsub, hrs⟩ := hwalk.sublist
  obtain ⟨⟨l, e⟩, hmem, rfl⟩ := List.mem_map.mp (mem_stableSort.mp he)
  exact ⟨l, hsub.subset (List.mem_map.mpr ⟨_, hmem, rfl⟩), hrs _ hmem⟩

/-- The edits of a program with placed literals lie one behind the other. None is empty, as each
spans two quotes, so they are even strictly ordered by their start. -/
theorem rewritten_apart (hplaced : program.IsPlaced source)
    (h : program.rewritten rules source = some (program', edits)) :
    edits.Pairwise fun a b => a.span.start < a.span.stop ∧ a.span.stop ≤ b.span.start := by
  have hlong : ∀ e ∈ edits, e.span.start < e.span.stop := by
    intro e he
    obtain ⟨l, hl, n, hof⟩ := exists_literal_of_mem h he
    obtain ⟨q, body, -, horiginal, -, hslice⟩ := hof.quoted (hplaced.placed l hl)
    obtain ⟨-, -, -, -, hstop⟩ := Text.slice?_eq_some_iff.mp hslice
    rw [horiginal, QuoteStyle.size_quoted] at hstop
    omega
  have hapart : edits.Pairwise fun a b =>
      a.span.stop ≤ b.span.start ∨ b.span.stop ≤ a.span.start := by
    obtain ⟨es, hwalk, rfl⟩ := rewritten_eq_some_iff.mp h
    obtain ⟨rs, rfl, hsub, hrs⟩ := hwalk.sublist
    have hpairs := List.pairwise_map.mp (hplaced.apart.sublist hsub)
    have hedits : (rs.map Prod.snd).Pairwise fun a b =>
        a.span.stop ≤ b.span.start ∨ b.span.stop ≤ a.span.start := by
      refine List.pairwise_map.mpr (hpairs.imp_of_mem fun {r r'} hr hr' hrr' => ?_)
      obtain ⟨_, hof⟩ := hrs r hr
      obtain ⟨_, hof'⟩ := hrs r' hr'
      rw [hof.span, hof'.span]
      exact hrr'
    exact ((stableSort_perm _ _).pairwise_iff fun hab => hab.symm).mpr hedits
  refine ((rewritten_pairwise h).and hapart).imp_of_mem fun {a b} ha hb hab => ?_
  have hlongA := hlong a ha
  have hlongB := hlong b hb
  refine ⟨hlongA, ?_⟩
  rcases hab.2 with hab' | hab'
  · exact hab'
  · have := hab.1
    omega

end Program

end DotJs
