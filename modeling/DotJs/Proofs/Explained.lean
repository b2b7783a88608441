import DotJs.Proofs.CheckedRuns
import DotJs.Proofs.OutermostEdits

/-!
# What an explanation tells of rewriting

An explanation judges the text of a specifier, while rewriting judges nodes of a program and writes
their literals anew. Both have the same rules, those of the project, and they agree on every node
that rewriting comes to (`Program.Edited.explained`): on a declaration whose literal has the value
that was explained, however it is written, and on a dynamic import if such imports are rewritten.

Rewriting does not come to what lies inside a rewritten node. There an explanation may promise an
edit that is not made (`CommandLine.explain_misses_nested`).
-/

namespace DotJs

variable {rules : Rules} {source : Text}

/-! ## One node -/

/-- A node is judged (`classify`) by the value of its literal, unless it is a dynamic import and
those are not rewritten. -/
theorem Rules.classify_of_literal {n : Node} {l : Literal} (hl : n.specifier = .literal l)
    (hkind : n.kind = .dynamicImport → rules.dynamicImports) :
    rules.classify n = rules.classifyText l.value := by
  simp only [Rules.classify]
  rw [if_neg, hl]
  · rfl
  · rintro ⟨hdynamic, hoff⟩
    rw [hkind hdynamic] at hoff
    cases hoff

theorem Explanation.verdict_of (rules : Rules) (specifier : Text) :
    (of rules specifier).verdict = rules.classifyText specifier := rfl

/-- An explanation has a new specifier when the verdict asks for it: the old one with `.js` behind
it. -/
theorem Explanation.rewritten_of (rules : Rules) (specifier : Text) :
    (of rules specifier).rewritten =
      if (rules.classifyText specifier).rewrites then some (specifier ++ dotJs) else none := rfl

namespace Program

variable {program program' : Program} {placed : List (Address × Edit)} {a : Address} {n : Node}
  {l : Literal}

/-- A node is outermost when its verdict asks for it and no node around it has an edit (`hfree`).
The outermost node on the way to it has one, and so is the node itself. -/
theorem Edited.isOutermost (h : program.Edited rules source program' placed)
    (hn : program.at? a = some n) (hrewrites : (rules.classify n).rewrites)
    (hfree : ∀ b ∈ placed.map Prod.fst, b <+: a → b = a) : program.IsOutermost rules a n := by
  refine ⟨hn, hrewrites, fun b m hb hne hm => ?_⟩
  by_contra hasks
  -- the first node on the way to `b` that is to be rewritten has an edit
  obtain ⟨c, k, hc, hk⟩ := Program.exists_isOutermost hm (by simpa using hasks)
  have hca : c = a := hfree c ((h.outermost c).mpr ⟨k, hk⟩) (hc.trans hb)
  rw [hca] at hc
  exact hne (hb.eq_of_length (Nat.le_antisymm hb.length_le hc.length_le))

/-- **An explanation agrees with an edited program** on a node with the literal it is about, if
rewriting comes to the node (`hfree`). -/
theorem Edited.explained (h : program.Edited rules source program' placed)
    (hn : program.at? a = some n) (hl : n.specifier = .literal l)
    (hkind : n.kind = .dynamicImport → rules.dynamicImports)
    (hfree : ∀ b ∈ placed.map Prod.fst, b <+: a → b = a) :
    rules.classify n = (Explanation.of rules l.value).verdict ∧
    ((Explanation.of rules l.value).rewritten.isSome ↔ a ∈ placed.map Prod.fst) ∧
    (∀ e, (a, e) ∈ placed → e.verdict = (Explanation.of rules l.value).verdict ∧
      ∃ l', program'.at? a = some (n.withLiteral l') ∧
        (Explanation.of rules l.value).rewritten = some l'.value) ∧
    (a ∉ placed.map Prod.fst → (program'.at? a).map Node.specifier = some (.literal l)) := by
  have hverdict := Rules.classify_of_literal hl hkind
  rw [Explanation.verdict_of, Explanation.rewritten_of]
  refine ⟨hverdict, ⟨fun hsome => ?_, fun hmem => ?_⟩, fun e he => ?_, fun hnot => ?_⟩
  · have hrewrites : (rules.classifyText l.value).rewrites := by
      by_contra hkept
      rw [if_neg hkept] at hsome
      cases hsome
    rw [← hverdict] at hrewrites
    exact (h.outermost a).mpr ⟨n, h.isOutermost hn hrewrites hfree⟩
  · obtain ⟨m, hm⟩ := (h.outermost a).mp hmem
    obtain rfl := Option.some.inj (hm.at_eq.symm.trans hn)
    rw [← hverdict, if_pos hm.rewrites]
    rfl
  · obtain ⟨m, k, hm, hk, hof, hafter⟩ := h.extended a e he
    obtain rfl := Option.some.inj (hm.symm.trans hn)
    obtain rfl := Specifier.literal.inj (hk.symm.trans hl)
    obtain ⟨o, ho⟩ := (h.outermost a).mp (List.mem_map.mpr ⟨(a, e), he, rfl⟩)
    obtain rfl := Option.some.inj (ho.at_eq.symm.trans hm)
    refine ⟨hof.verdict.trans hverdict, k.extendedBy e, hafter, ?_⟩
    rw [← hverdict, if_pos ho.rewrites]
    rfl
  · have hlabel := h.kept a hnot
    rw [hn] at hlabel
    obtain ⟨n', hn', hsame⟩ := Option.map_eq_some_iff.mp hlabel
    obtain ⟨-, -, hspecifier, -⟩ : n'.kind = n.kind ∧ n'.start = n.start ∧
        n'.specifier = n.specifier ∧ n'.inside.length = n.inside.length := by
      simpa [Node.label] using hsame
    rw [hn', Option.map_some, hspecifier, hl]

end Program

/-! ## Requests -/

namespace CommandLine

variable {fs : FileSystem} {r : Request} {p : Project} {format : ReportFormat}

/-- A request to `explain` a specifier, with the options of another one. -/
def Request.explaining (r : Request) (specifier : Text) : Request :=
  { r with command := .explain specifier }

/-- A request to explain has the `project` of the other requests with its options. -/
theorem perform_explaining (fs : FileSystem) (r : Request) (specifier : Text) :
    perform fs (r.explaining specifier) =
      match ReportFormat.ofName? r.format with
      | none => .error (.unknownFormat r.format)
      | some format =>
        match r.project fs with
        | .error e => .error e
        | .ok p =>
          .ok
            { exit := 0
              output := (Explanation.of p.rules specifier).text format ++ ['\n']
              messages := []
              files := fs } := by
  simp only [perform, Request.explaining, Request.project, Request.projectRoot]
  cases ReportFormat.ofName? r.format with
  | none => rfl
  | some format =>
    simp only [explain, Project.ofSettings]
    cases loadSettings fs (r.root.getD (Location.path fs.current)) r.rules with
    | error e => rfl
    | ok settings =>
      simp only
      cases settings.rules <;> rfl

/-- **An explanation tells what rewriting does.** Let the options name a format and a project. A
request to explain a specifier then comes to its end, and what it prints is the explanation
(`Explanation.of`) under the rules of the project, with which a request to rewrite processes files.
In any program that is `rewritten` under these rules, as every program is that was read from its
source, take a declaration whose literal has this value, or a dynamic import when such imports are
rewritten, that lies inside no rewritten node. It is judged as explained. It has an edit just when
the explanation has a new specifier; the edit has the same verdict, and the literal has the new
specifier as its value afterwards. Without an edit the literal stays. -/
theorem explain_tells_rewriting (hformat : ReportFormat.ofName? r.format = some format)
    (hproject : r.project fs = .ok p) (specifier : Text) :
    let explanation := Explanation.of p.rules specifier
    perform fs (r.explaining specifier) =
      .ok ⟨0, explanation.text format ++ ['\n'], [], fs⟩ ∧
    (∀ paths purpose result, perform fs (r.rewriting paths purpose) = .ok result →
      ∃ summary, p.run fs paths purpose.mode = .ok (result.files, summary)) ∧
    (∀ language source program, Source.parse language source = some program →
      ∃ program' edits, program.rewritten p.rules source = some (program', edits)) ∧
    ∀ (source : Text) (program program' : Program) (edits : List Edit),
      program.rewritten p.rules source = some (program', edits) →
      ∃ placed : List (Address × Edit), (placed.map Prod.snd).Perm edits ∧
        program.Edited p.rules source program' placed ∧
        ∀ a n l, program.at? a = some n → n.specifier = .literal l → l.value = specifier →
          (n.kind = .dynamicImport → p.rules.dynamicImports) →
          (∀ b ∈ placed.map Prod.fst, b <+: a → b = a) →
          p.rules.classify n = explanation.verdict ∧
          (explanation.rewritten.isSome ↔ a ∈ placed.map Prod.fst) ∧
          (∀ e, (a, e) ∈ placed → e.verdict = explanation.verdict ∧
            ∃ l', program'.at? a = some (n.withLiteral l') ∧
              explanation.rewritten = some l'.value) ∧
          (a ∉ placed.map Prod.fst →
            (program'.at? a).map Node.specifier = some (.literal l)) := by
  refine ⟨?_, fun paths purpose result hresult => ?_, fun language source program hparse => ?_, ?_⟩
  · rw [perform_explaining, hformat, hproject]
  · obtain ⟨_, p', after, summary, -, hproject', hrun, rfl⟩ := perform_eq_ok hresult
    obtain rfl := Except.ok.inj (hproject.symm.trans hproject')
    exact ⟨summary, hrun⟩
  · exact Program.exists_rewritten p.rules (Source.parse_isPlaced hparse)
  · intro source program program' edits h
    obtain ⟨es, hwalk, rfl⟩ := Program.rewritten_eq_some_iff.mp h
    obtain ⟨placed, rfl, hedited⟩ := hwalk.edited
    refine ⟨placed, (stableSort_perm _ _).symm, hedited, fun a n l hn hl hvalue hkind hfree => ?_⟩
    subst hvalue
    exact hedited.explained hn hl hkind hfree

/-- A specifier that a settings file forces, as the value of a literal that is written with an
escape. The same specifier in the argument of that import is kept. -/
theorem explain_tells_rewriting_escaped :
    let fs : FileSystem :=
      ⟨[(["p", ".jsextrc.json"].map String.toList,
        .text "\x7b \"forceInclude\": \"^my\" \x7d".toList)], [], ["p".toList]⟩
    let r : Request := ⟨.explain [], none, "list".toList, ⟨[], ["x$".toList], true⟩, false⟩
    let specifier := "my-pkg".toList
    let source := "import('\\x6dy-pkg',import('my-pkg'))".toList
    ∃ p program program' edits n l, ReportFormat.ofName? r.format = some .list ∧
      r.project fs = .ok p ∧ Source.parse .plain source = some program ∧
      program.rewritten p.rules source = some (program', edits) ∧
      program.at? [0] = some n ∧ n.specifier = .literal l ∧ l.value = specifier ∧
      l.raw = some "'\\x6dy-pkg'".toList ∧
      (perform fs (r.explaining specifier)).toOption.map (·.output) =
        some "'my-pkg' -> 'my-pkg.js' (specifier matches forceInclude)\n".toList ∧
      ∃ e ∈ edits, e.verdict = .forceIncluded ∧
        ∃ l', program'.at? [0] = some (n.withLiteral l') ∧ l'.value = "my-pkg.js".toList := by
  intro fs r specifier source
  have hresult : ((r.project fs).toOption.bind fun p =>
      (Source.parse .plain source).bind fun program =>
        (program.rewritten p.rules source).bind fun x => (program.at? [0]).bind fun n =>
          n.specifier.literal?.map fun l =>
            (l.value, l.raw, p.rules.dynamicImports, Explanation.of p.rules specifier)) =
      some (specifier, some "'\\x6dy-pkg'".toList, true,
        ⟨specifier, .forceIncluded, some "my-pkg.js".toList⟩) := by decide +kernel
  obtain ⟨p, hproject, hresult⟩ := Option.bind_eq_some_iff.mp hresult
  obtain ⟨program, hprogram, hresult⟩ := Option.bind_eq_some_iff.mp hresult
  obtain ⟨⟨program', edits⟩, hrewritten, hresult⟩ := Option.bind_eq_some_iff.mp hresult
  obtain ⟨n, hn, hresult⟩ := Option.bind_eq_some_iff.mp hresult
  obtain ⟨l, hliteral, hresult⟩ := Option.map_eq_some_iff.mp hresult
  obtain ⟨hvalue, hresult⟩ := Prod.mk.inj hresult
  obtain ⟨hraw, hresult⟩ := Prod.mk.inj hresult
  obtain ⟨hdynamic, hexplanation⟩ := Prod.mk.inj hresult
  have hproject := eq_ok_of_toOption hproject
  have hl : n.specifier = .literal l := by
    cases hspecifier : n.specifier with
    | literal k =>
      rw [hspecifier] at hliteral
      rw [Option.some.inj hliteral]
    | _ => rw [hspecifier] at hliteral; cases hliteral
  have hformat : ReportFormat.ofName? r.format = some .list := rfl
  obtain ⟨hperform, -, -, hall⟩ := explain_tells_rewriting hformat hproject specifier
  obtain ⟨placed, hperm, hedited, hexplained⟩ := hall source program program' edits hrewritten
  obtain ⟨-, hhas, hedit, -⟩ := hexplained [0] n l hn hl hvalue (fun _ => hdynamic)
    fun b hb hprefix => by
      obtain ⟨m, hm⟩ := (hedited.outermost b).mp hb
      cases b with
      | nil => exact absurd hm Program.not_isOutermost_nil
      | cons i b => exact hprefix.eq_of_length (by have := hprefix.length_le; simp at this ⊢; omega)
  rw [hexplanation] at hperform hhas hedit
  obtain ⟨⟨a, e⟩, he, rfl⟩ := List.mem_map.mp (hhas.mp rfl)
  obtain ⟨hverdict, l', hafter, hnew⟩ := hedit e he
  refine ⟨p, program, program', edits, n, l, rfl, hproject, hprogram, hrewritten, hn, hl, hvalue,
    hraw, ?_, e, hperm.mem_iff.mp (List.mem_map.mpr ⟨_, he, rfl⟩), hverdict, l', hafter,
    (Option.some.inj hnew).symm⟩
  rw [hperform]
  rfl

/-- An explanation promises an edit that is not made: that of a declaration inside a dynamic import
which is rewritten. -/
theorem explain_misses_nested :
    let fs : FileSystem := ⟨[], [], ["p".toList]⟩
    let r : Request := ⟨.explain [], none, "list".toList, ⟨[], [], true⟩, false⟩
    let specifier := "./b".toList
    let source := "import('./a', () => \x7b import './b' \x7d)".toList
    ∃ p program program' edits n l, r.project fs = .ok p ∧
      Source.parse (Language.ofPath "a.ts".toList) source = some program ∧
      program.rewritten p.rules source = some (program', edits) ∧
      program.at? [0, 0] = some n ∧ n.specifier.literal? = some l ∧
      n.kind = .importDeclaration ∧ l.value = specifier ∧
      (Explanation.of p.rules specifier).rewritten = some "./b.js".toList ∧
      edits.map (·.span) = [⟨7, 12⟩] ∧ l.span = ⟨29, 34⟩ ∧ l ∈ program'.literals := by
  intro fs r specifier source
  have hresult : ((r.project fs).toOption.bind fun p =>
      (Source.parse (Language.ofPath "a.ts".toList) source).bind fun program =>
        (program.rewritten p.rules source).bind fun x => (program.at? [0, 0]).bind fun n =>
          n.specifier.literal?.map fun l =>
            (n.kind, (Explanation.of p.rules specifier).rewritten, x.2.map (·.span),
              decide (l.value = specifier ∧ l.span = ⟨29, 34⟩ ∧ l ∈ x.1.literals))) =
      some (.importDeclaration, some "./b.js".toList, [⟨7, 12⟩], true) := by
    decide +kernel
  obtain ⟨p, hproject, hresult⟩ := Option.bind_eq_some_iff.mp hresult
  obtain ⟨program, hprogram, hresult⟩ := Option.bind_eq_some_iff.mp hresult
  obtain ⟨⟨program', edits⟩, hrewritten, hresult⟩ := Option.bind_eq_some_iff.mp hresult
  obtain ⟨n, hn, hresult⟩ := Option.bind_eq_some_iff.mp hresult
  obtain ⟨l, hl, hresult⟩ := Option.map_eq_some_iff.mp hresult
  obtain ⟨hkind, hresult⟩ := Prod.mk.inj hresult
  obtain ⟨hnew, hresult⟩ := Prod.mk.inj hresult
  obtain ⟨hedits, hresult⟩ := Prod.mk.inj hresult
  obtain ⟨hvalue, hspan, hkept⟩ := of_decide_eq_true hresult
  exact ⟨p, program, program', edits, n, l, eq_ok_of_toOption hproject, hprogram, hrewritten, hn,
    hl, hkind, hvalue, hnew, hedits, hspan, hkept⟩

end CommandLine

end DotJs
