import DotJs.Proofs.Insertion
import DotJs.Proofs.Placement

/-!
# Rewriting only inserts

`rewriteSource` reads a text as a program, rewrites the program and splices the edits into the
text. For a program whose literals are placed, none of this can fail, no edit is lost, and the
new text is the old one with `.js` before the closing quote of each edited literal.
-/

namespace DotJs

variable {rules : Rules} {source : Text} {program program' : Program} {edits : List Edit}

/-- The edits of placed literals cut the source into patches, each of which extends (`Edit.Extends`)
the literal that it replaces. All that is proved of patches then holds of a rewritten program. -/
theorem Program.exists_patches (hplaced : program.IsPlaced source)
    (h : program.rewritten rules source = some (program', edits)) :
    ∃ ps tail, ps.map (·.edit) = edits ∧ Patch.before ps tail = source ∧ Patch.Aligned 0 ps ∧
      ∀ p ∈ ps, p.edit.Extends p.old := by
  have hquoted : ∀ e ∈ edits, ∃ (q : QuoteStyle) (body : Text), e.original = q.quoted body ∧
      e.replacement = q.quoted (body ++ dotJs) ∧
      source.slice? e.span.start e.span.stop = some e.original := by
    intro e he
    obtain ⟨l, hl, n, hof⟩ := exists_literal_of_mem h he
    obtain ⟨q, body, -, horiginal, hreplacement, hslice⟩ := hof.quoted (hplaced.placed l hl)
    exact ⟨q, body, horiginal, hreplacement, hslice⟩
  -- spans that do not overlap and can be cut out are all that a cut into patches needs
  obtain ⟨ps, tail, hmap, hbefore, haligned, hold⟩ :=
    Patch.exists_of_apart source [] rfl (fun e _ => Nat.zero_le _)
      ((rewritten_apart hplaced h).imp And.right) fun e he => by
        obtain ⟨-, -, -, -, hslice⟩ := hquoted e he
        exact ⟨e.original, hslice⟩
  refine ⟨ps, tail, hmap, hbefore, haligned, fun p hp => ?_⟩
  have hmem : p.edit ∈ edits := by
    rw [← hmap]
    exact List.mem_map_of_mem hp
  obtain ⟨q, body, horiginal, hreplacement, hslice⟩ := hquoted p.edit hmem
  have hsame : p.old = q.quoted body := by
    rw [← horiginal]
    exact Option.some.inj ((hold p hp).symm.trans hslice)
  exact ⟨q.char :: body, q.char, q.utf8Size_char, hsame, by
    rw [hreplacement, QuoteStyle.quoted, List.append_assoc, List.cons_append]⟩

/-- The edits of placed literals can be spliced in: `spliced` fails only inside a character. -/
theorem Program.exists_spliced (hplaced : program.IsPlaced source)
    (h : program.rewritten rules source = some (program', edits)) :
    ∃ code, spliced source edits = some code := by
  obtain ⟨ps, tail, rfl, rfl, haligned, -⟩ := exists_patches hplaced h
  exact ⟨_, Patch.spliced_before haligned tail⟩

/-- What `rewriteSource` leads to, once the source is read as a program, rewritten and spliced. -/
theorem rewriteSource_eq_some {language : Language} {code : Text}
    (hparse : Source.parse language source = some program)
    (h : program.rewritten rules source = some (program', edits))
    (hcode : spliced source edits = some code) :
    rewriteSource rules language source = some ⟨code, edits⟩ := by
  simp only [rewriteSource]
  rw [hparse]
  change (program.rewritten rules source).bind _ = _
  rw [h]
  change (spliced source edits).bind _ = _
  rw [hcode]
  rfl

/-- A source text is rewritten whenever it is a program. Neither rewriting nor splicing fails behind
`Source.parse`. -/
theorem rewriteSource_eq_none_iff {language : Language} :
    rewriteSource rules language source = none ↔ Source.parse language source = none := by
  constructor
  · intro hnone
    rcases hparse : Source.parse language source with _ | program
    · rfl
    · have hplaced := Source.parse_isPlaced hparse
      obtain ⟨program', edits, h⟩ := Program.exists_rewritten rules hplaced
      obtain ⟨code, hcode⟩ := Program.exists_spliced hplaced h
      rw [rewriteSource_eq_some hparse h hcode] at hnone
      cases hnone
  · intro hparse
    simp only [rewriteSource]
    rw [hparse]
    rfl

/-- What `rewriteSource` makes of a text is longer by the extensions that it has got, three bytes
for each edit. -/
theorem rewriteSource_size {language : Language} {output : Output}
    (h : rewriteSource rules language source = some output) :
    output.code.size = source.size + 3 * output.edits.length := by
  simp only [rewriteSource] at h
  obtain ⟨program, hparse, h⟩ := Option.bind_eq_some_iff.mp h
  obtain ⟨⟨program', edits⟩, hrewritten, h⟩ := Option.bind_eq_some_iff.mp h
  obtain ⟨code, hcode, h⟩ := Option.bind_eq_some_iff.mp h
  obtain rfl := Option.some.inj h
  obtain ⟨ps, tail, rfl, rfl, haligned, hext⟩ :=
    Program.exists_patches (Source.parse_isPlaced hparse) hrewritten
  obtain rfl := Option.some.inj ((Patch.spliced_before haligned tail).symm.trans hcode)
  rw [Patch.size_after hext, List.length_map]

/-- **Rewriting only inserts.** For a program with placed literals (`IsPlaced`), rewriting and
splicing come to their end. Splicing carries out every edit (`accepted`), the edits are strictly
ordered by their start, and each has the text that the source has at the place of a literal. The new
text is the source with `.js` before the closing quote of each edited literal (`Text.inserted`): it
is longer by just these bytes, cutting them out again (`withdrawals`) gives the source back, and the
result counts as changed just when its text differs from the source. -/
theorem Program.rewritten_only_inserts (rules : Rules) (hplaced : program.IsPlaced source) :
    ∃ program' edits code,
      program.rewritten rules source = some (program', edits) ∧
      spliced source edits = some code ∧
      (∀ language, Source.parse language source = some program →
        rewriteSource rules language source = some ⟨code, edits⟩) ∧
      accepted source edits = edits ∧
      edits.Pairwise (fun a b => a.span.start < b.span.start) ∧
      (∀ e ∈ edits,
        source.slice? e.span.start e.span.stop = some e.original ∧
        (∃ l ∈ program.literals, l.span = e.span ∧ l.raw = some e.original) ∧
        ∃ (q : QuoteStyle) (body : Text), e.original = q.quoted body ∧
          e.replacement = q.quoted (body ++ dotJs)) ∧
      code = Text.inserted dotJs (edits.map fun e => e.span.stop - 1) 0 source ∧
      code.size = source.size + 3 * edits.length ∧
      spliced code (withdrawals 0 edits) = some source ∧
      ((Output.mk code edits).isChanged ↔ code ≠ source) := by
  obtain ⟨program', edits, h⟩ := exists_rewritten rules hplaced
  obtain ⟨code, hcode⟩ := exists_spliced hplaced h
  have hparse : ∀ language, Source.parse language source = some program →
      rewriteSource rules language source = some ⟨code, edits⟩ :=
    fun language hread => rewriteSource_eq_some hread h hcode
  have hordered : edits.Pairwise fun a b => a.span.start < b.span.start :=
    (rewritten_apart hplaced h).imp fun hab => by omega
  have hedits : ∀ e ∈ edits,
      source.slice? e.span.start e.span.stop = some e.original ∧
      (∃ l ∈ program.literals, l.span = e.span ∧ l.raw = some e.original) ∧
      ∃ (q : QuoteStyle) (body : Text), e.original = q.quoted body ∧
        e.replacement = q.quoted (body ++ dotJs) := by
    intro e he
    obtain ⟨l, hl, n, hof⟩ := exists_literal_of_mem h he
    obtain ⟨q, body, hraw, horiginal, hreplacement, hslice⟩ := hof.quoted (hplaced.placed l hl)
    exact ⟨hslice, ⟨l, hl, hof.span.symm, hraw⟩, q, body, horiginal, hreplacement⟩
  -- the rest is about the patches into which the edits cut the source
  obtain ⟨ps, tail, hmap, hbefore, haligned, hext⟩ := exists_patches hplaced h
  have hfits : 0 + (Patch.before ps tail).size ≤ source.size :=
    Nat.le_of_eq (by rw [hbefore, Nat.zero_add])
  have hafter : Patch.after ps tail = code := by
    have hsplice := Patch.splicedFrom_before haligned hfits
    rw [hmap, hbefore] at hsplice
    exact Option.some.inj (hsplice.symm.trans hcode)
  have haccepted : accepted source edits = edits := by
    rw [← hmap]
    exact Patch.acceptedFrom_eq haligned hfits
  have hinserted : code = Text.inserted dotJs (edits.map fun e => e.span.stop - 1) 0 source := by
    rw [← hafter, ← hbefore]
    refine Patch.after_eq_inserted haligned hext fun o _ => ?_
    rw [← hmap, List.map_map]
    rfl
  have hsize : code.size = source.size + 3 * edits.length := by
    rw [← hafter, Patch.size_after hext, hbefore, ← hmap, List.length_map]
  have hback : spliced code (withdrawals 0 edits) = some source := by
    rw [← hafter, ← hbefore, ← hmap]
    exact Patch.splicedFrom_withdrawals [] haligned hext rfl (by simp)
  have hchanged : (Output.mk code edits).isChanged ↔ code ≠ source := by
    constructor
    · intro hne heq
      rw [heq] at hsize
      have hnil : edits = [] := List.eq_nil_of_length_eq_zero (by omega)
      rw [hnil] at hne
      cases hne
    · intro hne
      cases edits with
      | nil => exact absurd (Option.some.inj hcode).symm hne
      | cons e es => rfl
  exact ⟨program', edits, code, h, hcode, hparse, haccepted, hordered, hedits, hinserted, hsize,
    hback, hchanged⟩

/-- Of an import inside another one only the outer gets its extension, and bytes are counted past a
character of two. -/
theorem Program.rewritten_only_inserts_nested :
    let source := "export*from\"../é\";import('./a',import('./b'))".toList
    ∃ program, Source.parse .plain source = some program ∧ program.IsPlaced source ∧
      ∃ program' edits code,
        program.rewritten ⟨[], [], true⟩ source = some (program', edits) ∧
        spliced source edits = some code ∧
        code = "export*from\"../é.js\";import('./a.js',import('./b'))".toList ∧
        (edits.map fun e => e.span.start) = [11, 26] ∧
        spliced code (withdrawals 0 edits) = some source := by
  intro source
  have hsome : (Source.parse .plain source).isSome := by decide +kernel
  obtain ⟨program, hparse⟩ := Option.isSome_iff_exists.mp hsome
  have hplaced := Source.parse_isPlaced hparse
  obtain ⟨program', edits, code, h, hcode, hrun, -, -, -, -, -, hback, -⟩ :=
    Program.rewritten_only_inserts ⟨[], [], true⟩ hplaced
  have hresult : (rewriteSource ⟨[], [], true⟩ .plain source).map
      (fun o => (o.code, o.edits.map fun e => e.span.start))
      = some ("export*from\"../é.js\";import('./a.js',import('./b'))".toList, [11, 26]) := by
    decide +kernel
  rw [hrun .plain hparse] at hresult
  obtain ⟨hsame, hstarts⟩ := Prod.mk.inj (Option.some.inj hresult)
  exact ⟨program, hparse, hplaced, program', edits, code, h, hcode, hsame, hstarts, hback⟩

end DotJs
