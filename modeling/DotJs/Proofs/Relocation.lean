import DotJs.Proofs.OnlyInserts
import DotJs.Proofs.OutermostEdits

/-!
# Where literals are found afterwards

Rewriting has two results: a program with new literals, and edits that are spliced into the
text. They agree. Each literal of the new program stands in the new text, at a place that
`Span.moved` computes from its old one: three bytes further on for each edit before it, and three
bytes longer if it was edited itself.

* `Patch.exists_kept` follows a piece of text that no edit touches through splicing, and
  `Patch.exists_replaced` a replacement.
* `Program.related_of_pairwise` says of the literals at two addresses what is said of any two
  entries of the list of literals.
-/

namespace DotJs

/-- The number of edits that end before some offset. Each of them has made the text three bytes
longer there. -/
def editsBefore (edits : List Edit) (offset : Nat) : Nat :=
  (edits.filter fun e => e.span.stop ≤ offset).length

/-- The place to which edits move the literal at a place: by the `editsBefore` it, and by its own.
It is computed from spans alone and does not look at a program or a text. -/
def Span.moved (span : Span) (edits : List Edit) : Span :=
  let shift := 3 * editsBefore edits span.start
  ⟨span.start + shift,
    span.stop + shift + if edits.any fun e => e.span = span then 3 else 0⟩

theorem editsBefore_cons (e : Edit) (edits : List Edit) (offset : Nat) :
    editsBefore (e :: edits) offset =
      (if e.span.stop ≤ offset then 1 else 0) + editsBefore edits offset := by
  unfold editsBefore
  by_cases h : e.span.stop ≤ offset
  · simp [h, Nat.add_comm]
  · simp [h]

theorem editsBefore_eq_zero {edits : List Edit} {offset : Nat}
    (h : ∀ e ∈ edits, offset < e.span.stop) : editsBefore edits offset = 0 := by
  unfold editsBefore
  rw [List.length_eq_zero_iff, List.filter_eq_nil_iff]
  intro e he
  simpa using h e he

/-! ## In the text -/

theorem Edit.Extends.size_replacement {e : Edit} {old : Text} (h : e.Extends old) :
    e.replacement.size = old.size + 3 := by
  obtain ⟨body, q, -, rfl, hnew⟩ := h
  have hdot : dotJs.size = 3 := by decide
  rw [hnew]
  simp only [Text.size_append, hdot]
  omega

theorem Edit.Extends.size_pos {e : Edit} {old : Text} (h : e.Extends old) : 0 < old.size := by
  obtain ⟨body, q, hq, rfl, -⟩ := h
  simp only [Text.size_append, Text.size_cons, hq]
  omega

namespace Patch

variable {cursor : Nat} {ps : List Patch} {tail : Text}

/-- All spans of aligned patches start behind the cursor. -/
theorem Aligned.le_start (h : Aligned cursor ps) {p : Patch} (hp : p ∈ ps) :
    cursor ≤ p.edit.span.start := by
  induction ps generalizing cursor with
  | nil => exact absurd hp List.not_mem_nil
  | cons p' ps ih =>
    obtain ⟨hstart, hstop, hrest⟩ := h
    rcases List.mem_cons.mp hp with rfl | hp
    · omega
    · have := ih hrest hp
      omega

/-- Behind the start of the first of some patches, no edit is over (`editsBefore`): what a patch
replaces is not empty. -/
theorem Aligned.editsBefore_eq_zero (h : Aligned cursor ps)
    (hext : ∀ p ∈ ps, p.edit.Extends p.old) {offset : Nat} (hoffset : offset ≤ cursor) :
    editsBefore (ps.map (·.edit)) offset = 0 := by
  refine DotJs.editsBefore_eq_zero fun e he => ?_
  obtain ⟨p, hp, rfl⟩ := List.mem_map.mp he
  have hstop := h.stop_le hp
  have hsize := (hext p hp).size_pos
  omega

/-- A piece of the text from which all edits keep away is found behind as many new bytes as there
are edits before it (`editsBefore`). The induction is on the patches; the piece stands in what the
first of them keeps or behind it. -/
theorem exists_kept (h : Aligned cursor ps) (hext : ∀ p ∈ ps, p.edit.Extends p.old)
    {a t b : Text} (ht : 0 < t.size) (htext : before ps tail = a ++ (t ++ b))
    (hapart : ∀ p ∈ ps, cursor + a.size + t.size ≤ p.edit.span.start ∨
      p.edit.span.stop ≤ cursor + a.size) :
    ∃ a' b', after ps tail = a' ++ (t ++ b') ∧
      a'.size = a.size + 3 * editsBefore (ps.map (·.edit)) (cursor + a.size) := by
  induction ps generalizing cursor a with
  | nil => exact ⟨a, b, htext, rfl⟩
  | cons p ps ih =>
    obtain ⟨hstart, hstop, hrest⟩ := h
    have hextRest : ∀ p' ∈ ps, p'.edit.Extends p'.old :=
      fun p' hp' => hext p' (List.mem_cons_of_mem p hp')
    rw [before] at htext
    rw [List.map_cons, editsBefore_cons]
    rcases hapart p List.mem_cons_self with hbefore | hbehind
    · -- the piece lies in the stretch before the first edit, and no edit is before it
      have hle : (a ++ t).size ≤ p.kept.size := by
        rw [Text.size_append]
        omega
      have hfront : a ++ t ++ b = p.kept ++ (p.old ++ before ps tail) := by
        rw [List.append_assoc, htext]
      obtain ⟨k, hkept, -⟩ := Text.exists_of_append_eq_append hfront hle
      have hnone : editsBefore (ps.map (·.edit)) (cursor + a.size) = 0 :=
        hrest.editsBefore_eq_zero hextRest (by omega)
      refine ⟨a, k ++ (p.edit.replacement ++ after ps tail), ?_, ?_⟩
      · rw [after, hkept]
        simp only [List.append_assoc]
      · rw [hnone, if_neg (by omega)]
        rfl
    · -- the piece lies behind the first edit
      have hle : (p.kept ++ p.old).size ≤ a.size := by
        rw [Text.size_append]
        omega
      rw [← List.append_assoc] at htext
      obtain ⟨k, rfl, hk⟩ := Text.exists_of_append_eq_append htext hle
      have hcursor : p.edit.span.stop + k.size = cursor + (p.kept ++ p.old ++ k).size := by
        simp only [Text.size_append]
        omega
      obtain ⟨a', b', hafter, hsize⟩ := ih hrest hextRest hk fun p' hp' => by
        rw [hcursor]
        exact hapart p' (List.mem_cons_of_mem p hp')
      have hnew := (hext p List.mem_cons_self).size_replacement
      refine ⟨p.kept ++ p.edit.replacement ++ a', b', ?_, ?_⟩
      · rw [after, hafter]
        simp only [List.append_assoc]
      · rw [← hcursor, if_pos (by omega)]
        simp only [Text.size_append, hnew, hsize]
        omega

/-- A replacement is found behind as many new bytes as there are edits before it. Its own three come
later. -/
theorem exists_replaced (h : Aligned cursor ps) (hext : ∀ p ∈ ps, p.edit.Extends p.old)
    (tail : Text) {p : Patch} (hp : p ∈ ps) :
    ∃ a' b', after ps tail = a' ++ (p.edit.replacement ++ b') ∧
      cursor + a'.size =
        p.edit.span.start + 3 * editsBefore (ps.map (·.edit)) p.edit.span.start := by
  induction ps generalizing cursor with
  | nil => exact absurd hp List.not_mem_nil
  | cons p' ps ih =>
    obtain ⟨hstart, hstop, hrest⟩ := h
    have hextRest : ∀ p ∈ ps, p.edit.Extends p.old :=
      fun p hp => hext p (List.mem_cons_of_mem p' hp)
    rw [after, List.map_cons, editsBefore_cons]
    rcases List.mem_cons.mp hp with rfl | hp
    · have hsize := (hext p List.mem_cons_self).size_pos
      have hnone : editsBefore (ps.map (·.edit)) p.edit.span.start = 0 :=
        hrest.editsBefore_eq_zero hextRest (by omega)
      refine ⟨p.kept, after ps tail, rfl, ?_⟩
      rw [hnone, if_neg (by omega)]
      omega
    · obtain ⟨a', b', hafter, hsize⟩ := ih hrest hextRest hp
      have hnew := (hext p' List.mem_cons_self).size_replacement
      have hbehind := hrest.le_start hp
      refine ⟨p'.kept ++ p'.edit.replacement ++ a', b', ?_, ?_⟩
      · rw [hafter]
        simp only [List.append_assoc]
      · rw [if_pos hbehind]
        simp only [Text.size_append, hnew]
        omega

end Patch

/-! ## In the program -/

namespace Program

variable {rules : Rules} {source : Text} {program program' : Program} {edits : List Edit}

/-- What holds of any two entries of the list of `literals` holds of the literals at any two
addresses. Two addresses may name equal nodes, so the places in the list are what tells them
apart. -/
theorem related_of_pairwise {r : Literal → Literal → Prop} (hsymm : ∀ l l', r l l' → r l' l)
    {nodes : List Node} (h : (literals nodes).Pairwise r) {a b : Address} {n m : Node}
    {l l' : Literal} (hab : a ≠ b) (hn : at? nodes a = some n) (hl : n.specifier = .literal l)
    (hm : at? nodes b = some m) (hl' : m.specifier = .literal l') : r l l' := by
  induction nodes using Program.induction generalizing a b with
  | nil =>
    rw [at?_empty] at hn
    cases hn
  | cons k rest ihInside ihRest =>
    rw [literals_cons, List.append_assoc] at h
    obtain ⟨-, hothers, hfirst⟩ := List.pairwise_append.mp h
    obtain ⟨hinside, hrest, hcross⟩ := List.pairwise_append.mp hothers
    -- each of the addresses is that of the first node, leads into it or passes it by
    have hown : ∀ {n : Node} {l}, at? (k :: rest) [0] = some n → n.specifier = .literal l →
        l ∈ k.specifier.literal?.toList := by
      intro n l hn hl
      obtain rfl : k = n := Option.some.inj hn
      rw [hl]
      exact List.mem_cons_self
    match a, b, hn, hm with
    | [0], [0], _, _ => exact absurd rfl hab
    | [0], 0 :: j :: b, hn, hm =>
      exact hfirst l (hown hn hl) l'
        (List.mem_append_left _ (mem_literals_of_at? (a := j :: b) hm hl'))
    | [0], (j + 1) :: b, hn, hm =>
      exact hfirst l (hown hn hl) l'
        (List.mem_append_right _ (mem_literals_of_at? (a := j :: b) hm hl'))
    | 0 :: i :: a, [0], hn, hm =>
      exact hsymm _ _ (hfirst l' (hown hm hl') l
        (List.mem_append_left _ (mem_literals_of_at? (a := i :: a) hn hl)))
    | 0 :: i :: a, 0 :: j :: b, hn, hm =>
      exact ihInside hinside (a := i :: a) (b := j :: b) (fun heq => hab (by rw [heq])) hn hm
    | 0 :: i :: a, (j + 1) :: b, hn, hm =>
      exact hcross l (mem_literals_of_at? (a := i :: a) hn hl) l'
        (mem_literals_of_at? (a := j :: b) hm hl')
    | (i + 1) :: a, [0], hn, hm =>
      exact hsymm _ _ (hfirst l' (hown hm hl') l
        (List.mem_append_right _ (mem_literals_of_at? (a := i :: a) hn hl)))
    | (i + 1) :: a, 0 :: j :: b, hn, hm =>
      exact hsymm _ _ (hcross l' (mem_literals_of_at? (a := j :: b) hm hl') l
        (mem_literals_of_at? (a := i :: a) hn hl))
    | (i + 1) :: a, (j + 1) :: b, hn, hm =>
      refine ihRest hrest (a := i :: a) (b := j :: b) (fun heq => hab ?_) hn hm
      obtain ⟨rfl, rfl⟩ := List.cons.inj heq
      rfl

/-! ## In both -/

/-- The patches into which edits cut a source make up the new text as well, by `Patch.after`. -/
theorem exists_patches_spliced {code : Text} (hplaced : program.IsPlaced source)
    (h : program.rewritten rules source = some (program', edits))
    (hcode : spliced source edits = some code) :
    ∃ ps tail, ps.map (·.edit) = edits ∧ Patch.before ps tail = source ∧
      Patch.after ps tail = code ∧ Patch.Aligned 0 ps ∧ ∀ p ∈ ps, p.edit.Extends p.old := by
  obtain ⟨ps, tail, rfl, rfl, haligned, hext⟩ := exists_patches hplaced h
  have hafter := (Patch.spliced_before haligned tail).symm.trans hcode
  exact ⟨ps, tail, rfl, rfl, Option.some.inj hafter, haligned, hext⟩

/-- Where an edited literal was moved to (`Span.moved`), the new text has its replacement. -/
theorem slice?_of_mem {code : Text} (hplaced : program.IsPlaced source)
    (h : program.rewritten rules source = some (program', edits))
    (hcode : spliced source edits = some code) {e : Edit} (he : e ∈ edits) :
    code.slice? (e.span.moved edits).start (e.span.moved edits).stop = some e.replacement := by
  obtain ⟨l, hl, n, hof⟩ := exists_literal_of_mem h he
  obtain ⟨q, body, -, horiginal, hreplacement, hslice⟩ := hof.quoted (hplaced.placed l hl)
  obtain ⟨-, -, -, -, hstop⟩ := Text.slice?_eq_some_iff.mp hslice
  have hlonger : (edits.any fun e' => e'.span = e.span) = true :=
    List.any_eq_true.mpr ⟨e, he, decide_eq_true rfl⟩
  have hsize : e.replacement.size = e.original.size + 3 := by
    have hdot : dotJs.size = 3 := by decide
    rw [hreplacement, horiginal, QuoteStyle.size_quoted, QuoteStyle.size_quoted,
      Text.size_append, hdot]
  obtain ⟨ps, tail, hmap, -, rfl, haligned, hext⟩ := exists_patches_spliced hplaced h hcode
  rw [← hmap] at he
  obtain ⟨p, hp, rfl⟩ := List.mem_map.mp he
  obtain ⟨a, b, hcut, hstart⟩ := Patch.exists_replaced haligned hext tail hp
  rw [hmap] at hstart
  refine Text.slice?_eq_some_iff.mpr ⟨a, b, hcut, ?_, ?_⟩
  · simp only [Span.moved]
    omega
  · simp only [Span.moved, hlonger, if_true]
    omega

/-- Where a text was moved to (`Span.moved`) from which all edits keep away, it is found again. -/
theorem slice?_of_apart {code t : Text} {span : Span} (hplaced : program.IsPlaced source)
    (h : program.rewritten rules source = some (program', edits))
    (hcode : spliced source edits = some code) (ht : 0 < t.size)
    (hslice : source.slice? span.start span.stop = some t)
    (hapart : ∀ e ∈ edits, span.stop ≤ e.span.start ∨ e.span.stop ≤ span.start) :
    code.slice? (span.moved edits).start (span.moved edits).stop = some t := by
  obtain ⟨a, b, hsource, hstart, hstop⟩ := Text.slice?_eq_some_iff.mp hslice
  have hsame : (edits.any fun e => e.span = span) = false := by
    rw [List.any_eq_false]
    intro e he heq
    have happart := hapart e he
    rw [of_decide_eq_true heq] at happart
    omega
  obtain ⟨ps, tail, hmap, hbefore, rfl, haligned, hext⟩ := exists_patches_spliced hplaced h hcode
  obtain ⟨a', b', hcut, hsize⟩ := Patch.exists_kept haligned hext ht (hbefore.trans hsource)
    fun p hp => by
      have := hapart p.edit (by rw [← hmap]; exact List.mem_map.mpr ⟨p, hp, rfl⟩)
      omega
  rw [hmap, Nat.zero_add, hstart] at hsize
  refine Text.slice?_eq_some_iff.mpr ⟨a', b', hcut, hsize, ?_⟩
  simp only [Span.moved, hsame, Bool.false_eq_true, if_false]
  omega

/-- **The new literals stand in the new text.** For a program with placed literals (`IsPlaced`),
rewriting and splicing come to their end. Take any node of the program, at any depth, that names its
module by a literal. The node at the same address of the new program has a literal too, and its text
is what the new text has at the place to which the edits move the old literal (`Span.moved`). -/
theorem rewritten_agrees_with_spliced (rules : Rules) (hplaced : program.IsPlaced source) :
    ∃ program' edits code,
      program.rewritten rules source = some (program', edits) ∧
      spliced source edits = some code ∧
      ∀ a n l, program.at? a = some n → n.specifier = .literal l →
        ∃ n' l' raw, program'.at? a = some n' ∧ n'.specifier = .literal l' ∧
          l'.raw = some raw ∧
          code.slice? (l.span.moved edits).start (l.span.moved edits).stop = some raw := by
  obtain ⟨program', edits, h⟩ := exists_rewritten rules hplaced
  obtain ⟨code, hcode⟩ := exists_spliced hplaced h
  refine ⟨program', edits, code, h, hcode, fun a n l hn hl => ?_⟩
  obtain ⟨es, hwalk, hes⟩ := rewritten_eq_some_iff.mp h
  obtain ⟨placed, rfl, hedited⟩ := hwalk.edited
  have hmem : ∀ e, e ∈ edits ↔ ∃ b, (b, e) ∈ placed := by
    intro e
    rw [hes, mem_stableSort, List.mem_map]
    exact ⟨fun ⟨p, hp, he⟩ => ⟨p.1, by rwa [← he]⟩, fun ⟨b, hb⟩ => ⟨_, hb, rfl⟩⟩
  by_cases ha : a ∈ placed.map Prod.fst
  · -- the literal was edited, and the edit has its place
    obtain ⟨⟨_, e⟩, hplace, rfl⟩ := List.mem_map.mp ha
    obtain ⟨m, k, hm, hk, hof, hm'⟩ := hedited.extended _ e hplace
    obtain rfl : m = n := Option.some.inj (hm.symm.trans hn)
    obtain rfl : k = l := Specifier.literal.inj (hk.symm.trans hl)
    refine ⟨_, _, e.replacement, hm', rfl, rfl, ?_⟩
    rw [← hof.span]
    exact slice?_of_mem hplaced h hcode ((hmem e).mpr ⟨_, hplace⟩)
  · -- the literal was kept, and every edit is about another one
    obtain ⟨q, body, hraw, hslice⟩ := hplaced.placed l (mem_literals_of_at? hn hl)
    have hkept := hedited.kept a ha
    rw [hn] at hkept
    obtain ⟨n', hn', hlabel⟩ := Option.map_eq_some_iff.mp hkept
    have hspecifier : n'.specifier = n.specifier :=
      (Prod.mk.inj (Prod.mk.inj (Prod.mk.inj hlabel).2).2).1
    refine ⟨n', l, q.quoted body, hn', hspecifier.trans hl, hraw, ?_⟩
    have hsize : 0 < (q.quoted body).size := by
      rw [QuoteStyle.size_quoted]
      omega
    refine slice?_of_apart hplaced h hcode hsize hslice fun e he => ?_
    obtain ⟨b, hb⟩ := (hmem e).mp he
    obtain ⟨m, k, hm, hk, hof, -⟩ := hedited.extended b e hb
    have hab : a ≠ b := by
      rintro rfl
      exact ha (List.mem_map.mpr ⟨_, hb, rfl⟩)
    rw [hof.span]
    exact related_of_pairwise (fun _ _ => Or.symm) hplaced.apart hab hn hl hm hk

/-- A literal inside a rewritten import keeps its text, and is found behind both new extensions. -/
theorem rewritten_agrees_with_spliced_nested :
    let source := "export*from\"../é\";import('./a',import('./b'))".toList
    ∃ program, Source.parse .plain source = some program ∧ program.IsPlaced source ∧
      ∃ program' edits code n' l',
        program.rewritten ⟨[], [], true⟩ source = some (program', edits) ∧
        spliced source edits = some code ∧
        program'.at? [1, 0] = some n' ∧ n'.specifier = .literal l' ∧
        l'.raw = code.slice? 45 50 ∧ code.slice? 45 50 = some "'./b'".toList := by
  intro source
  have hlabel : (Source.parse .plain source).map
      (fun p => (p.at? [1, 0]).bind fun n => n.specifier.literal?.map (·.span))
      = some (some ⟨39, 44⟩) := by
    decide +kernel
  obtain ⟨program, hparse, hnode⟩ := Option.map_eq_some_iff.mp hlabel
  obtain ⟨n, hn, hliteral⟩ := Option.bind_eq_some_iff.mp hnode
  obtain ⟨l, hl, hspan⟩ := Option.map_eq_some_iff.mp hliteral
  have hplaced := Source.parse_isPlaced hparse
  obtain ⟨program', edits, code, h, hcode, hagrees⟩ :=
    rewritten_agrees_with_spliced ⟨[], [], true⟩ hplaced
  obtain ⟨n', l', raw, hn', hl', hraw, hslice⟩ := hagrees [1, 0] n l hn (by
    cases hspecifier : n.specifier <;> rw [hspecifier] at hl <;> cases hl
    rfl)
  have hresult : (rewriteSource ⟨[], [], true⟩ .plain source).map
      (fun o => (o.code.slice? 45 50, l.span.moved o.edits))
      = some (some "'./b'".toList, ⟨45, 50⟩) := by
    rw [hspan]
    decide +kernel
  rw [rewriteSource_eq_some hparse h hcode] at hresult
  obtain ⟨htext, hmoved⟩ := Prod.mk.inj (Option.some.inj hresult)
  rw [hmoved] at hslice
  exact ⟨program, hparse, hplaced, program', edits, code, n', l', h, hcode, hn', hl',
    hraw.trans hslice.symm, htext⟩

end Program

end DotJs
