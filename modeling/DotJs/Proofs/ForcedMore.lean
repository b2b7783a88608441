import DotJs.Proofs.BatchRun
import DotJs.Proofs.OutermostEdits
import DotJs.Proofs.RepeatedPasses

/-!
# Rules that force more

Rules may be compared with others that force more specifiers, and are the same otherwise
(`Rules.IsForcedMore`). What the first ask to rewrite the others ask to rewrite too, for the same
reason (`Rules.IsForcedMore.classify_eq_of_rewrites`), and whatever else they ask for is a forced
specifier.

That does not carry over to programs as it stands. A node that is forced now is not entered any
more, so that the nodes inside it keep their literals. Seen from a node, this is the only thing that
can happen: the first node to be rewritten on the way to it is the node itself, or one that has come
to be forced (`Program.IsOutermost.of_isForcedMore`).
-/

namespace DotJs

variable {rules more : Rules} {source : Text}

/-! ## Verdicts -/

/-- Whether some rules force all that others do, and are the same as these otherwise. Further
exclusions would take verdicts back, so `excluded` must not change. -/
structure Rules.IsForcedMore (rules more : Rules) : Prop where
  /-- the patterns of what is forced are among the others -/
  forced : ∀ r ∈ rules.forced, r ∈ more.forced
  /-- the same is never forced -/
  excluded : more.excluded = rules.excluded
  /-- dynamic imports are dealt with alike -/
  dynamicImports : more.dynamicImports = rules.dynamicImports

namespace Rules.IsForcedMore

theorem forces (h : rules.IsForcedMore more) {t : Text} (ht : rules.forces t) : more.forces t := by
  simp only [Rules.forces, Rules.forcesBy, Bool.and_eq_true, List.any_eq_true, h.excluded] at ht ⊢
  obtain ⟨⟨r, hr, hfound⟩, hkept⟩ := ht
  exact ⟨⟨r, h.forced r hr, hfound⟩, hkept⟩

/-- Where the verdicts on a text differ, it was to be kept and is forced now. -/
theorem classifyText_eq_or (h : rules.IsForcedMore more) (t : Text) :
    more.classifyText t = rules.classifyText t ∨
      (rules.classifyText t).rewrites = false ∧ more.classifyText t = .forceIncluded := by
  rw [Rules.classifyText_eq, Rules.classifyText_eq]
  by_cases hrelative : isRelative t
  · simp [hrelative]
  · by_cases hforced : rules.forces t
    · simp [hrelative, hforced, h.forces hforced]
    · by_cases hmore : more.forces t
      · right
        by_cases hextension : extension t = [] <;>
          simp [hrelative, hforced, hmore, hextension, Verdict.rewrites]
      · simp [hrelative, hforced, hmore]

/-- Where the verdicts on a node differ, it was to be kept and is forced now; `classifyText_eq_or`
says so of its text. -/
theorem classify_eq_or (h : rules.IsForcedMore more) (n : Node) :
    more.classify n = rules.classify n ∨
      (rules.classify n).rewrites = false ∧ more.classify n = .forceIncluded := by
  simp only [Rules.classify, h.dynamicImports]
  split
  · exact .inl rfl
  · cases n.specifier with
    | literal l => exact h.classifyText_eq_or l.value
    | _ => exact .inl rfl

/-- A node that was to be rewritten still is, for the same reason. -/
theorem classify_eq_of_rewrites (h : rules.IsForcedMore more) {n : Node}
    (hn : (rules.classify n).rewrites) : more.classify n = rules.classify n := by
  rcases h.classify_eq_or n with hsame | ⟨hkept, -⟩
  · exact hsame
  · rw [hn] at hkept
    cases hkept

/-- A node that is to be rewritten only now is forced (`forceIncluded`). -/
theorem classify_eq_forceIncluded (h : rules.IsForcedMore more) {n : Node}
    (hkept : (rules.classify n).rewrites = false) (hn : (more.classify n).rewrites) :
    more.classify n = .forceIncluded := by
  rcases h.classify_eq_or n with hsame | ⟨-, hforced⟩
  · rw [hsame, hkept] at hn
    cases hn
  · exact hforced

end Rules.IsForcedMore

/-! ## Outermost nodes -/

namespace Program

variable {program : Program} {a : Address} {n : Node}

/-- A node that is outermost is still so when more is forced, unless a node around it has come to be
forced, and has taken its place as the outermost one. -/
theorem IsOutermost.of_isForcedMore (hmore : rules.IsForcedMore more)
    (h : program.IsOutermost rules a n) :
    program.IsOutermost more a n ∨
      ∃ b m, b <+: a ∧ b ≠ a ∧ program.IsOutermost more b m := by
  have hn : (more.classify n).rewrites := by
    rw [hmore.classify_eq_of_rewrites h.rewrites]
    exact h.rewrites
  obtain ⟨b, m, hb, hm⟩ := exists_isOutermost h.at_eq hn
  by_cases hba : b = a
  · subst hba
    obtain rfl := Option.some.inj (hm.at_eq.symm.trans h.at_eq)
    exact .inl hm
  · exact .inr ⟨b, m, hb, hba, hm⟩

/-- **Forcing more loses a rewritten literal only to a node around it that has come to be forced.**
Let some rules force more than others and be the same otherwise (`Rules.IsForcedMore`). A program
whose literals have quoted texts (`Literal.IsQuoted`) can be rewritten by both. Wherever both can, a
literal that is rewritten by the first is rewritten by the others too, and by the same edit, as long
as they rewrite no node around it; and if they do rewrite one, that node is rewritten because it is
forced, and was not rewritten by the first rules. -/
theorem rewritten_of_isForcedMore (hmore : rules.IsForcedMore more) (source : Text)
    (program : Program) :
    ((∀ l ∈ program.literals, l.IsQuoted) →
      (program.rewritten rules source).isSome ∧ (program.rewritten more source).isSome) ∧
    ∀ program' edits program'' edits',
      program.rewritten rules source = some (program', edits) →
      program.rewritten more source = some (program'', edits') →
      ∃ placed placed' : List (Address × Edit),
        ((placed.map Prod.snd).Perm edits ∧ program.Edited rules source program' placed) ∧
        ((placed'.map Prod.snd).Perm edits' ∧ program.Edited more source program'' placed') ∧
        ∀ a e, (a, e) ∈ placed →
          ((a, e) ∈ placed' ↔ ∀ b e', b <+: a → b ≠ a → (b, e') ∉ placed') ∧
          ∀ b e', b <+: a → b ≠ a → (b, e') ∈ placed' →
            e'.verdict = .forceIncluded ∧ b ∉ placed.map Prod.fst := by
  refine ⟨fun hquoted => ?_, fun program' edits program'' edits' h h' => ?_⟩
  · obtain ⟨p, es, h, -⟩ := exists_rewritten_isQuoted rules source hquoted
    obtain ⟨p', es', h', -⟩ := exists_rewritten_isQuoted more source hquoted
    exact ⟨h ▸ rfl, h' ▸ rfl⟩
  · obtain ⟨es, hwalk, rfl⟩ := rewritten_eq_some_iff.mp h
    obtain ⟨es', hwalk', rfl⟩ := rewritten_eq_some_iff.mp h'
    obtain ⟨placed, rfl, hedited⟩ := hwalk.edited
    obtain ⟨placed', rfl, hedited'⟩ := hwalk'.edited
    refine ⟨placed, placed', ⟨(stableSort_perm _ _).symm, hedited⟩,
      ⟨(stableSort_perm _ _).symm, hedited'⟩, fun a e he => ⟨⟨?_, fun halone => ?_⟩, ?_⟩⟩
    · intro hboth b e' hb hne he'
      exact hne (hedited'.eq_of_prefix hboth he' hb)
    · obtain ⟨n, l, hn, hl, hof⟩ := hedited.outermost_of_mem he
      rcases hn.of_isForcedMore hmore with hn' | ⟨b, m, hb, hne, hm⟩
      · obtain ⟨e', he'⟩ := hedited'.exists_edit hn'
        obtain ⟨n', l', hn'', hl', hof'⟩ := hedited'.outermost_of_mem he'
        obtain rfl := Option.some.inj (hn''.at_eq.symm.trans hn'.at_eq)
        obtain rfl := Specifier.literal.inj (hl'.symm.trans hl)
        have hsame := hof.of_classify_eq (hmore.classify_eq_of_rewrites hn.rewrites)
        rwa [hsame.unique hof']
      · obtain ⟨e', he'⟩ := hedited'.exists_edit hm
        exact absurd he' (halone b e' hb hne)
    · intro b e' hb hne he'
      obtain ⟨n, -, hn, -⟩ := hedited.outermost_of_mem he
      obtain ⟨m, l, hm, -, hof⟩ := hedited'.outermost_of_mem he'
      have hkept := hn.above b m hb hne hm.at_eq
      refine ⟨hof.verdict.trans (hmore.classify_eq_forceIncluded hkept hm.rewrites), fun hmem => ?_⟩
      obtain ⟨k, hk⟩ := (hedited.outermost b).mp hmem
      obtain rfl := Option.some.inj (hk.at_eq.symm.trans hm.at_eq)
      rw [hk.rewrites] at hkept
      cases hkept

/-- Once the outer import is forced, the one in its argument is lost, and the one behind it is
not. -/
theorem rewritten_of_isForcedMore_nested :
    let source := "import('my-pkg',import('./b'));import'./a'".toList
    let rules : Rules := ⟨[], [], true⟩
    ∃ more program program' edits program'' edits',
      Rules.ofPatterns ["^my-pkg".toList] [] true = .ok more ∧ rules.IsForcedMore more ∧
      Source.parse (Language.ofPath "a.ts".toList) source = some program ∧
      (∀ l ∈ program.literals, l.IsQuoted) ∧
      program.rewritten rules source = some (program', edits) ∧
      edits.map (·.original) = ["'./b'", "'./a'"].map String.toList ∧
      program.rewritten more source = some (program'', edits') ∧
      edits'.map (·.original) = ["'my-pkg'", "'./a'"].map String.toList ∧
      ∃ placed placed' : List (Address × Edit),
        (placed.map Prod.snd).Perm edits ∧ (placed'.map Prod.snd).Perm edits' ∧
        ∀ a e, (a, e) ∈ placed →
          ((a, e) ∈ placed' ↔ ∀ b e', b <+: a → b ≠ a → (b, e') ∉ placed') ∧
          ∀ b e', b <+: a → b ≠ a → (b, e') ∈ placed' →
            e'.verdict = .forceIncluded ∧ b ∉ placed.map Prod.fst := by
  intro source rules
  let language := Language.ofPath "a.ts".toList
  have hresult : ((Rules.ofPatterns ["^my-pkg".toList] [] true).toOption.bind fun more =>
      (Source.parse language source).bind fun program =>
        (program.rewritten rules source).bind fun r => (program.rewritten more source).map fun r' =>
          (decide (more.excluded = [] ∧ more.dynamicImports = true),
            r.2.map (·.original), r'.2.map (·.original))) =
      some (true, ["'./b'", "'./a'"].map String.toList,
        ["'my-pkg'", "'./a'"].map String.toList) := by
    decide +kernel
  obtain ⟨more, hrules, hresult⟩ := Option.bind_eq_some_iff.mp hresult
  obtain ⟨program, hprogram, hresult⟩ := Option.bind_eq_some_iff.mp hresult
  obtain ⟨⟨program', edits⟩, h, hresult⟩ := Option.bind_eq_some_iff.mp hresult
  obtain ⟨⟨program'', edits'⟩, h', hresult⟩ := Option.map_eq_some_iff.mp hresult
  obtain ⟨hsame, hresult⟩ := Prod.mk.inj hresult
  obtain ⟨hedits, hedits'⟩ := Prod.mk.inj hresult
  obtain ⟨hexcluded, hdynamic⟩ := of_decide_eq_true hsame
  have hmore : rules.IsForcedMore more := ⟨nofun, hexcluded, hdynamic⟩
  have hquoted : ∀ l ∈ program.literals, l.IsQuoted := by
    intro l hl
    obtain ⟨q, body, hraw, -⟩ := (Source.parse_isPlaced hprogram).placed l hl
    refine ⟨q.quoted body, hraw, q, q, rfl, ?_⟩
    rw [QuoteStyle.quoted, ← List.cons_append, List.getLast?_concat]
  obtain ⟨-, hrewritten⟩ := rewritten_of_isForcedMore hmore source program
  obtain ⟨placed, placed', ⟨hperm, -⟩, ⟨hperm', -⟩, hlost⟩ :=
    hrewritten program' edits program'' edits' h h'
  exact ⟨more, program, program', edits, program'', edits', eq_ok_of_toOption hrules, hmore,
    hprogram, hquoted, h, hedits, h', hedits', placed, placed', hperm, hperm', hlost⟩

/-- Forcing one more specifier loses the rewriting of another: the import in the argument of the one
that is forced. -/
theorem isForcedMore_loses_nested :
    let source := "import('my-pkg', import('./b'))".toList
    let inner : Literal := ⟨"./b".toList, ⟨24, 29⟩, some "'./b'".toList⟩
    let outer : Literal := ⟨"my-pkg".toList, ⟨7, 15⟩, some "'my-pkg'".toList⟩
    let program : Program :=
      [.mk .dynamicImport 0 (.literal outer) [.mk .dynamicImport 17 (.literal inner) []]]
    let rules : Rules := ⟨[], [], true⟩
    ((Source.parse (Language.ofPath "a.ts".toList) source).map Program.literals =
      some program.literals) ∧
    ∃ more program' edits program'' edits',
      Rules.ofPatterns ["^my-pkg".toList] [] true = .ok more ∧ rules.IsForcedMore more ∧
      program.rewritten rules source = some (program', edits) ∧
      program.rewritten more source = some (program'', edits') ∧
      edits.map (·.span) = [inner.span] ∧ edits'.map (·.span) = [outer.span] ∧
      inner ∈ program''.literals := by
  intro source inner outer program rules
  have hresult : ((Rules.ofPatterns ["^my-pkg".toList] [] true).toOption.bind fun more =>
      (program.rewritten rules source).bind fun r => (program.rewritten more source).map fun r' =>
        (decide (more.excluded = [] ∧ more.dynamicImports = true), r.2.map (·.span),
          r'.2.map (·.span), decide (inner ∈ r'.1.literals))) =
      some (true, [inner.span], [outer.span], true) := by decide +kernel
  obtain ⟨more, hrules, hresult⟩ := Option.bind_eq_some_iff.mp hresult
  obtain ⟨⟨program', edits⟩, h, hresult⟩ := Option.bind_eq_some_iff.mp hresult
  obtain ⟨⟨program'', edits'⟩, h', hresult⟩ := Option.map_eq_some_iff.mp hresult
  obtain ⟨hsame, hresult⟩ := Prod.mk.inj hresult
  obtain ⟨hedits, hresult⟩ := Prod.mk.inj hresult
  obtain ⟨hedits', hkept⟩ := Prod.mk.inj hresult
  obtain ⟨hexcluded, hdynamic⟩ := of_decide_eq_true hsame
  refine ⟨by decide +kernel, more, program', edits, program'', edits', ?_⟩
  exact ⟨eq_ok_of_toOption hrules, ⟨nofun, hexcluded, hdynamic⟩, h, h', hedits, hedits',
    of_decide_eq_true hkept⟩

end Program

end DotJs
