import DotJs.Proofs.AddedExtension
import DotJs.Proofs.OutermostEdits

/-!
# Rewriting again and again

One pass can leave work for the next one, in two ways. A specifier that ends with a slash
qualifies again with its extension, and a node that was inside a rewritten one is first looked at
when the outer one is done. Where nothing is forced, the passes come to an end all the same.

* `Node.turns` is the number of times that a node still qualifies, at most twice, and each
  rewriting takes one of them (`Node.turns_withLiteral`).
* `Program.passes` adds up turns along a branch of the program and takes the greatest sum. A pass
  lowers it by one (`Program.Walks.passes_eq`), because on each branch it rewrites the first node
  that has a turn left.
* `Program.literalDepth` is the number of literals on a branch that has most of them, so that
  there are never more than twice as many passes.

`Program.repeated_passes_end` is the result for a program whose literals have quoted texts.
-/

namespace DotJs

variable {rules : Rules} {source : Text}

/-! ## Literals with a quoted text -/

/-- Whether the text of a literal is known, and starts and ends with a quote. The two quotes may
differ and may be the same character, so this is less than `Literal.IsPlaced` asks for. -/
def Literal.IsQuoted (l : Literal) : Prop :=
  ∃ raw, l.raw = some raw ∧ ∃ q q' : QuoteStyle, raw.head? = some q.char ∧
    raw.getLast? = some q'.char

namespace StringLiteral

/-- What the extension writes stands between two equal quotes, whatever it started from. -/
theorem extended_eq_quoted {raw : Option Text} {value t : Text} {q : QuoteStyle}
    (h : extended raw value q = some t) : ∃ body, t = q.quoted body := by
  cases raw with
  | none => exact ⟨_, (Option.some.inj h).symm⟩
  | some raw =>
    obtain ⟨body, -, rfl⟩ := Option.map_eq_some_iff.mp h
    exact ⟨body ++ dotJs, rfl⟩

end StringLiteral

namespace Literal

/-- A literal with a quoted text (`IsQuoted`) can be rewritten: its first and last character can be
cut off, as they have one byte each. -/
theorem IsQuoted.exists_rewritten {l : Literal} (h : l.IsQuoted) (source : Text)
    (kind : ModuleKind) (verdict : Verdict) : ∃ r, l.rewritten source kind verdict = some r := by
  obtain ⟨raw, hraw, q, q', -, hlast⟩ := h
  refine exists_rewritten_of_closed (fun t ht => ?_) kind verdict
  rw [ht.eq_of_raw hraw]
  exact ⟨q', hlast⟩

/-- A rewritten literal has a quoted text, so that a pass can be followed by another one. -/
theorem isQuoted_extendedBy {n : Node} {l : Literal} {e : Edit} (he : e.IsOf rules source n l) :
    (l.extendedBy e).IsQuoted := by
  obtain ⟨body, hbody⟩ := StringLiteral.extended_eq_quoted he.replacement
  refine ⟨e.replacement, rfl, e.quote, e.quote, ?_, ?_⟩
  · rw [hbody]
    rfl
  · rw [hbody, e.quote.getLast?_quoted]

end Literal

/-- A walk leaves quoted texts where it found them: the induction follows `Walks`. -/
theorem Program.Walks.isQuoted {nodes nodes' : List Node} {edits : List Edit}
    (h : Walks rules source nodes nodes' edits) (hq : ∀ l ∈ literals nodes, l.IsQuoted) :
    ∀ l ∈ literals nodes', l.IsQuoted := by
  induction h with
  | nil => exact hq
  | @rewritten n l e rest rest' es _ hl he _ ih =>
    simp only [literals_cons, List.mem_append] at hq ⊢
    rintro l' ((hnew | hinside) | hrest)
    · obtain rfl : l' = l.extendedBy e := List.mem_singleton.mp hnew
      exact Literal.isQuoted_extendedBy he
    · exact hq l' (.inl (.inr hinside))
    · exact ih (fun l hl => hq l (.inr hl)) l' hrest
  | @kept n inside rest rest' es es' _ _ _ ihInside ihRest =>
    simp only [literals_cons, List.mem_append] at hq ⊢
    rintro l' ((hown | hinside) | hrest)
    · exact hq l' (.inl (.inl hown))
    · exact ihInside (fun l hl => hq l (.inl (.inr hl))) l' hinside
    · exact ihRest (fun l hl => hq l (.inr hl)) l' hrest

/-! ## Turns of a node -/

/-- How often a node still qualifies if nothing is forced: at most twice, since `asksAgain` is false
of a specifier with an extension added. -/
def Node.turns (rules : Rules) (n : Node) : Nat :=
  match n.specifier with
  | .literal l =>
    if (rules.classify n).rewrites then if rules.asksAgain l.value then 2 else 1 else 0
  | .absent | .computed => 0

namespace Node

/-- A node that is kept has no turn, and never gets one: its specifier stays as it is. -/
theorem turns_of_keeps {n : Node} (hv : (rules.classify n).rewrites = false) :
    n.turns rules = 0 := by
  unfold turns
  split
  · rw [hv]
    rfl
  · rfl
  · rfl

theorem turns_of_rewrites {n : Node} {l : Literal} (hv : (rules.classify n).rewrites)
    (hl : n.specifier = .literal l) :
    n.turns rules = if rules.asksAgain l.value then 2 else 1 := by
  unfold turns
  rw [hl]
  exact if_pos hv

theorem turns_congr {n m : Node} (hkind : m.kind = n.kind) (hs : m.specifier = n.specifier) :
    m.turns rules = n.turns rules := by
  unfold turns
  rw [hs, Rules.classify_congr hkind hs]

/-- A rewriting takes one turn from the node. This is the step that makes passes come to an end. -/
theorem turns_withLiteral (hrules : rules.forced = []) {n : Node} {l : Literal} (e : Edit)
    (hv : (rules.classify n).rewrites) (hl : n.specifier = .literal l) :
    (n.withLiteral (l.extendedBy e)).turns rules + 1 = n.turns rules := by
  have hagain := Rules.rewrites_withLiteral_iff (l := l) e hv
  rw [turns_of_rewrites hv hl]
  cases hlast : rules.asksAgain l.value with
  | true =>
    -- with its extension the specifier qualifies once more, and not a third time
    rw [turns_of_rewrites (hagain.mpr hlast) rfl, Literal.extendedBy,
      Rules.asksAgain_append_dotJs hrules]
    rfl
  | false =>
    rw [turns_of_keeps (Bool.eq_false_iff.mpr fun h => ?_)]
    · rfl
    · rw [hagain.mp h] at hlast
      cases hlast

/-- Nodes without a literal have no turn, others at most two, whatever the `rules`. -/
theorem turns_le (rules : Rules) (n : Node) :
    n.turns rules ≤ 2 * n.specifier.literal?.toList.length := by
  unfold turns
  split
  · next l hl =>
    rw [hl]
    simp only [Specifier.literal?, Option.toList_some, List.length_singleton]
    split
    · split <;> omega
    · omega
  · omega
  · omega

end Node

/-! ## Branches of a program -/

mutual

/-- The greatest number of `turns` on a branch that starts at a node. Turns add up along a branch,
as a node is entered only once those around it have no turn left. -/
def Node.passes (rules : Rules) : Node → Nat
  | .mk kind start specifier inside =>
    (Node.mk kind start specifier inside).turns rules + Program.passes rules inside

/-- The greatest number of `turns` on a branch of a forest. Branches side by side are rewritten in
the same passes, so the greatest sum counts and not the total. -/
def Program.passes (rules : Rules) : List Node → Nat
  | [] => 0
  | n :: rest => max (n.passes rules) (Program.passes rules rest)

end

mutual

/-- The greatest number of literals on a branch that starts at a node, its own one included. -/
def Node.literalDepth : Node → Nat
  | .mk _ _ specifier inside =>
    specifier.literal?.toList.length + Program.literalDepth inside

/-- The greatest number of literals on a branch of a forest, from an outermost node inwards. It
bounds `Program.passes` without any rules. -/
def Program.literalDepth : List Node → Nat
  | [] => 0
  | n :: rest => max n.literalDepth (Program.literalDepth rest)

end

namespace Program

theorem passes_cons (rules : Rules) (n : Node) (rest : List Node) :
    passes rules (n :: rest) = max (n.turns rules + passes rules n.inside) (passes rules rest) := by
  obtain ⟨kind, start, specifier, inside⟩ := n
  rw [passes, Node.passes]
  rfl

theorem literalDepth_cons (n : Node) (rest : List Node) :
    literalDepth (n :: rest) =
      max (n.specifier.literal?.toList.length + literalDepth n.inside) (literalDepth rest) := by
  obtain ⟨kind, start, specifier, inside⟩ := n
  rw [literalDepth, Node.literalDepth]
  rfl

/-- No branch has more turns (`passes`) than twice the number of its literals. -/
theorem passes_le (rules : Rules) (nodes : List Node) :
    passes rules nodes ≤ 2 * literalDepth nodes := by
  induction nodes using Program.induction with
  | nil => rw [passes]; omega
  | cons n rest ihInside ihRest =>
    have hn := n.turns_le rules
    rw [passes_cons, literalDepth_cons]
    omega

/-- A pass takes one turn from each branch that has one, and so lowers `passes` by one. -/
theorem Walks.passes_eq (hrules : rules.forced = []) {nodes nodes' : List Node}
    {edits : List Edit} (h : Walks rules source nodes nodes' edits) :
    passes rules nodes' = passes rules nodes - 1 := by
  induction h with
  | nil => rw [passes]
  | @rewritten n l e rest rest' es hv hl _ _ ih =>
    -- the first node of the branch takes its turn, and nothing behind it does
    have hturn := Node.turns_withLiteral hrules e hv hl
    have hinside : (n.withLiteral (l.extendedBy e)).inside = n.inside := rfl
    rw [passes_cons, passes_cons, hinside, ih]
    omega
  | @kept n inside rest rest' es es' hv _ _ ihInside ihRest =>
    have hkept := Node.turns_of_keeps hv
    have hsame : (n.withInside inside).turns rules = n.turns rules := Node.turns_congr rfl rfl
    rw [passes_cons, passes_cons, hsame, hkept, Node.inside_withInside, ihInside, ihRest]
    omega

/-- Where no branch has a turn left, nothing is edited. -/
theorem Walks.edits_eq_nil {nodes nodes' : List Node} {edits : List Edit}
    (h : Walks rules source nodes nodes' edits) (hdone : passes rules nodes = 0) : edits = [] := by
  induction h with
  | nil => rfl
  | @rewritten n l e rest rest' es hv hl _ _ _ =>
    have hturn := Node.turns_of_rewrites hv hl
    rw [passes_cons, hturn] at hdone
    split at hdone <;> omega
  | @kept n inside rest rest' es es' _ _ _ ihInside ihRest =>
    rw [passes_cons] at hdone
    rw [ihInside (by omega), ihRest (by omega)]
    rfl

/-! ## One node over all passes -/

/-- How often the node at an address still qualifies (`Node.turns`). A pass keeps addresses, so this
can be compared from one pass to the next. -/
def turnsAt (rules : Rules) (program : Program) (a : Address) : Nat :=
  ((program.at? a).map (Node.turns rules)).getD 0

theorem turnsAt_le (rules : Rules) (program : Program) (a : Address) :
    turnsAt rules program a ≤ 2 := by
  unfold turnsAt
  cases program.at? a with
  | none => exact Nat.zero_le 2
  | some n =>
    refine Nat.le_trans (n.turns_le rules) ?_
    cases n.specifier <;> exact Nat.le_of_ble_eq_true rfl

/-- An edit at an address takes a turn from its node, and no other node loses one. -/
theorem Edited.turnsAt_eq (hrules : rules.forced = []) {program program' : Program}
    {placed : List (Address × Edit)} (h : program.Edited rules source program' placed)
    (a : Address) :
    turnsAt rules program' a + (placed.map Prod.fst).count a = turnsAt rules program a := by
  unfold turnsAt
  by_cases ha : a ∈ placed.map Prod.fst
  · obtain ⟨m, houtermost⟩ := (h.outermost a).mp ha
    obtain ⟨⟨_, e⟩, hmem, rfl⟩ := List.mem_map.mp ha
    obtain ⟨n, l, hn, hl, -, hn'⟩ := h.extended _ e hmem
    obtain rfl : m = n := Option.some.inj (houtermost.at_eq.symm.trans hn)
    rw [List.count_eq_one_of_mem h.distinct ha, hn, hn']
    exact Node.turns_withLiteral hrules e houtermost.rewrites hl
  · rw [List.count_eq_zero_of_not_mem ha, Nat.add_zero]
    have hlabel := h.kept a ha
    -- the turns of a node can be told from its label
    rcases hn : program.at? a with _ | n
    · rw [hn] at hlabel
      rw [Option.map_eq_none_iff.mp hlabel]
    · rw [hn] at hlabel
      obtain ⟨n', hn', hsame⟩ := Option.map_eq_some_iff.mp hlabel
      obtain ⟨hkind, -, hspecifier, -⟩ : n'.kind = n.kind ∧ n'.start = n.start ∧
          n'.specifier = n.specifier ∧ n'.inside.length = n.inside.length := by
        simpa [Node.label] using hsame
      rw [hn']
      exact Node.turns_congr hkind hspecifier

/-! ## All passes -/

/-- A program with quoted texts can be rewritten, and has quoted texts afterwards. -/
theorem exists_rewritten_isQuoted (rules : Rules) (source : Text) {program : Program}
    (hq : ∀ l ∈ program.literals, l.IsQuoted) :
    ∃ program' edits, program.rewritten rules source = some (program', edits) ∧
      ∀ l ∈ program'.literals, l.IsQuoted := by
  obtain ⟨program', es, hnodes⟩ := exists_rewrittenNodes rules source
    fun l hl kind verdict => (hq l hl).exists_rewritten source kind verdict
  have hwalk := rewrittenNodes_eq_some_iff.mp hnodes
  exact ⟨program', _, rewritten_eq_some_iff.mpr ⟨es, hwalk, rfl⟩, hwalk.isQuoted hq⟩

/-- What a number of passes leave of a program. Pass number `k` is told the text `source k`, which
may be any: for a literal whose own text is known, rewriting does not look at the source. -/
def afterPasses (rules : Rules) (source : Nat → Text) (program : Program) : Nat → Option Program
  | 0 => some program
  | k + 1 => (afterPasses rules source program k).bind fun p =>
      (p.rewritten rules (source k)).map Prod.fst

/-- Passes over a program with quoted texts can be repeated for ever (`afterPasses`), since quoted
texts stay quoted. -/
theorem exists_afterPasses (rules : Rules) (source : Nat → Text) {program : Program}
    (hq : ∀ l ∈ program.literals, l.IsQuoted) (k : Nat) :
    ∃ p, program.afterPasses rules source k = some p ∧ ∀ l ∈ p.literals, l.IsQuoted := by
  induction k with
  | zero => exact ⟨program, rfl, hq⟩
  | succ k ih =>
    obtain ⟨p, hp, hpq⟩ := ih
    obtain ⟨p', edits, hrewritten, hpq'⟩ := exists_rewritten_isQuoted rules (source k) hpq
    exact ⟨p', by rw [afterPasses, hp, Option.bind_some, hrewritten, Option.map_some], hpq'⟩

/-- The edits of the passes so far and the turns that are left at an address add up to the turns at
the start. The induction is on the number of passes. -/
theorem count_add_turnsAt (hrules : rules.forced = []) {source : Nat → Text}
    {programs : Nat → Program} {placed : Nat → List (Address × Edit)}
    (h : ∀ k, (programs k).Edited rules (source k) (programs (k + 1)) (placed k)) (a : Address)
    (n : Nat) :
    (((List.range n).flatMap placed).map Prod.fst).count a + turnsAt rules (programs n) a =
      turnsAt rules (programs 0) a := by
  induction n with
  | zero => simp
  | succ n ih =>
    have hstep := (h n).turnsAt_eq hrules a
    rw [List.range_succ, List.flatMap_append, List.map_append, List.count_append,
      List.flatMap_singleton]
    omega

/-- **Passes without force rules come to an end.** Take a program whose literals have texts that
start and end with a quote (`IsQuoted`), and rules that force nothing. It can be rewritten again and
again (`afterPasses`), and the edits of each pass belong to nodes at certain addresses. From some
pass on there are no edits, at the latest after twice as many passes as there are literals on a
branch of the program with most of them (`literalDepth`). In any number of passes, no node is
rewritten more than twice. -/
theorem repeated_passes_end (hrules : rules.forced = []) (source : Nat → Text)
    {program : Program} (hq : ∀ l ∈ program.literals, l.IsQuoted) :
    ∃ (programs : Nat → Program) (edits : Nat → List Edit)
      (placed : Nat → List (Address × Edit)),
      (∀ k, program.afterPasses rules source k = some (programs k)) ∧
      (∀ k, (programs k).rewritten rules (source k) = some (programs (k + 1), edits k)) ∧
      (∀ k, ((placed k).map Prod.snd).Perm (edits k) ∧
        (programs k).Edited rules (source k) (programs (k + 1)) (placed k)) ∧
      (∃ last ≤ 2 * literalDepth program, ∀ k, last ≤ k → edits k = []) ∧
      ∀ a n, (((List.range n).flatMap placed).map Prod.fst).count a ≤ 2 := by
  choose programs hprograms hquoted using exists_afterPasses rules source hq
  have hpasses : ∀ k, ∃ edits,
      (programs k).rewritten rules (source k) = some (programs (k + 1), edits) := by
    intro k
    obtain ⟨p, edits, hp, -⟩ := exists_rewritten_isQuoted rules (source k) (hquoted k)
    have hnext := hprograms (k + 1)
    rw [afterPasses, hprograms k, Option.bind_some, hp, Option.map_some] at hnext
    obtain rfl : p = programs (k + 1) := Option.some.inj hnext
    exact ⟨edits, hp⟩
  choose edits hedits using hpasses
  have hwalks : ∀ k, ∃ es, Walks rules (source k) (programs k) (programs (k + 1)) es ∧
      edits k = stableSort Edit.startsBefore es := fun k => rewritten_eq_some_iff.mp (hedits k)
  choose es hwalk hsorted using hwalks
  have hplaced : ∀ k, ∃ placed : List (Address × Edit), placed.map Prod.snd = es k ∧
      (programs k).Edited rules (source k) (programs (k + 1)) placed := fun k => (hwalk k).edited
  choose placed hes hedited using hplaced
  have hfirst : programs 0 = program := (Option.some.inj (hprograms 0)).symm
  -- each pass takes one from the number of passes that are left
  have hleft : ∀ k, passes rules (programs k) = passes rules program - k := by
    intro k
    induction k with
    | zero => rw [hfirst, Nat.sub_zero]
    | succ k ih => rw [(hwalk k).passes_eq hrules, ih, Nat.sub_sub]
  refine ⟨programs, edits, placed, hprograms, hedits, fun k => ⟨?_, hedited k⟩,
    ⟨passes rules program, passes_le rules program, fun k hk => ?_⟩, fun a n => ?_⟩
  · rw [hes, hsorted]
    exact (stableSort_perm _ _).symm
  · have hnone := (hwalk k).edits_eq_nil (by rw [hleft]; omega)
    rw [hsorted, hnone]
    rfl
  · have hcount := count_add_turnsAt hrules hedited a n
    have hturns := turnsAt_le rules (programs 0) a
    omega

/-- The outer of two imports is rewritten twice because of its slash, and then the inner one. -/
theorem repeated_passes_end_nested :
    let rules : Rules := ⟨[], [], true⟩
    let source : Nat → Text := fun _ => "import('./b/',import('./c'))".toList
    let inner : Node :=
      .mk .dynamicImport 14 (.literal ⟨"./c".toList, ⟨21, 26⟩, some "'./c'".toList⟩) []
    let program : Program :=
      [.mk .dynamicImport 0 (.literal ⟨"./b/".toList, ⟨7, 13⟩, some "'./b/'".toList⟩) [inner]]
    rules.forced = [] ∧ (∀ l ∈ program.literals, l.IsQuoted) ∧ literalDepth program = 2 ∧
      ∃ (programs : Nat → Program) (edits : Nat → List Edit),
        (∀ k, program.afterPasses rules source k = some (programs k)) ∧
        (∀ k, (programs k).rewritten rules (source k) = some (programs (k + 1), edits k)) ∧
        edits 2 ≠ [] ∧ ∀ k, 4 ≤ k → edits k = [] := by
  intro rules source inner program
  have hquoted : ∀ l ∈ program.literals, l.IsQuoted := by
    intro l hl
    have hliterals : program.literals = [⟨"./b/".toList, ⟨7, 13⟩, some "'./b/'".toList⟩,
        ⟨"./c".toList, ⟨21, 26⟩, some "'./c'".toList⟩] := by decide
    rw [hliterals] at hl
    rcases List.mem_pair.mp hl with rfl | rfl
    · exact ⟨_, rfl, .single, .single, by decide, by decide⟩
    · exact ⟨_, rfl, .single, .single, by decide, by decide⟩
  have hdepth : literalDepth program = 2 := by decide
  have hforced : rules.forced = [] := rfl
  obtain ⟨programs, edits, -, hprograms, hedits, -, ⟨last, hlast, hnone⟩, -⟩ :=
    repeated_passes_end hforced source hquoted
  refine ⟨rfl, hquoted, hdepth, programs, edits, hprograms, hedits, ?_, fun k hk => hnone k ?_⟩
  · -- the third pass has one edit
    have hthird : (program.afterPasses rules source 2).bind (fun p =>
        (p.rewritten rules (source 2)).map fun r => r.2.length) = some 1 := by decide +kernel
    rw [hprograms 2, Option.bind_some, hedits 2, Option.map_some] at hthird
    intro hnil
    rw [hnil] at hthird
    cases hthird
  · omega

end Program

end DotJs
