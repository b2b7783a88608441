import DotJs.Proofs.Splicing

/-!
# Where a text can be cut

A span counts bytes, so its ends can lie inside a character. `Text.IsBoundary` says that an offset
does not: some characters at the start of the text have just this many bytes.

* `Text.exists_slice?_iff`: a text has a slice between two boundaries in order, and no other;
* `exists_spliced_iff`: splicing has a result just when all edits that are taken have spans between
  boundaries;
* `spliced_eq_none_iff` says when there is none, and that the edits that are passed over have no
  part in that.
-/

namespace DotJs

/-! ## Boundaries -/

namespace Text

/-- Whether an offset lies between two characters of a text, or at one of its ends. It asks for two
texts, as `cut?` finds them, and so says nothing about bytes of characters. -/
def IsBoundary (t : Text) (n : Nat) : Prop := ∃ a b : Text, t = a ++ b ∧ a.size = n

variable {t : Text} {n start stop : Nat}

/-- A text can be cut at its boundaries, which makes `IsBoundary` decidable. -/
theorem isSome_cut?_iff : (cut? n t).isSome ↔ t.IsBoundary n := by
  constructor
  · intro h
    obtain ⟨⟨a, b⟩, hcut⟩ := Option.isSome_iff_exists.mp h
    exact ⟨a, b, cut?_eq_some hcut⟩
  · rintro ⟨a, b, rfl, rfl⟩
    rw [cut?_size]
    rfl

instance : Decidable (t.IsBoundary n) := decidable_of_iff _ isSome_cut?_iff

/-- A text has a `slice?` between two boundaries in order, and no other. -/
theorem exists_slice?_iff :
    (∃ s, t.slice? start stop = some s) ↔
      start ≤ stop ∧ t.IsBoundary start ∧ t.IsBoundary stop := by
  constructor
  · rintro ⟨s, hs⟩
    obtain ⟨a, b, rfl, rfl, rfl⟩ := slice?_eq_some_iff.mp hs
    refine ⟨Nat.le_add_right _ _, ⟨a, s ++ b, rfl, rfl⟩, a ++ s, b, ?_, size_append a s⟩
    rw [List.append_assoc]
  · rintro ⟨hle, ⟨a, b, rfl, rfl⟩, c, d, heq, rfl⟩
    -- the first cut lies before the second one, so the stretch between them is the slice
    obtain ⟨s, rfl, rfl⟩ := exists_of_append_eq_append heq hle
    exact ⟨s, slice?_eq_some_iff.mpr ⟨a, d, rfl, rfl, (size_append a s).symm⟩⟩

end Text

/-! ## Splicing -/

variable {source : Text} {edits : List Edit}

/-- The old stretches of aligned patches are the slices at the spans of the edits. The text may have
a part `front` before the patches. -/
theorem Patch.Aligned.slice?_eq (front : Text) {ps : List Patch} (h : Aligned front.size ps)
    (tail : Text) {p : Patch} (hp : p ∈ ps) :
    (front ++ before ps tail).slice? p.edit.span.start p.edit.span.stop = some p.old := by
  induction ps generalizing front with
  | nil => exact absurd hp List.not_mem_nil
  | cons p' ps ih =>
    obtain ⟨hstart, hstop, hrest⟩ := h
    rw [before]
    rcases List.mem_cons.mp hp with rfl | hp
    · refine Text.slice?_eq_some_iff.mpr ⟨front ++ p.kept, before ps tail, ?_, ?_, hstop.symm⟩
      · rw [List.append_assoc]
      · rw [Text.size_append, hstart]
    · have hsize : (front ++ p'.kept ++ p'.old).size = p'.edit.span.stop := by
        rw [Text.size_append, Text.size_append, hstop, hstart]
      rw [← hsize] at hrest
      have hold := ih _ hrest hp
      rwa [List.append_assoc, List.append_assoc] at hold

/-- Splicing has a result just when the spans of all edits that are `taken` lie between
boundaries. -/
theorem exists_spliced_iff :
    (∃ out, spliced source edits = some out) ↔
      ∀ e ∈ taken source edits, source.IsBoundary e.span.start ∧ source.IsBoundary e.span.stop := by
  rw [← accepted_eq_taken]
  constructor
  · rintro ⟨out, hout⟩ e he
    obtain ⟨ps, tail, hps, haligned, hbefore, -⟩ := exists_patches_of_splicedFrom hout
    have hmem : e ∈ ps.map (·.edit) := by
      rw [hps]
      exact he
    obtain ⟨p, hp, rfl⟩ := List.mem_map.mp hmem
    have hold := haligned.slice?_eq [] tail hp
    rw [List.nil_append, hbefore] at hold
    exact (Text.exists_slice?_iff.mp ⟨p.old, hold⟩).2
  · intro hbetween
    have hslice : ∀ e ∈ accepted source edits,
        ∃ old, source.slice? e.span.start e.span.stop = some old := fun e he =>
      Text.exists_slice?_iff.mpr ⟨(forall_mem_acceptedFrom he).2.1, hbetween e he⟩
    obtain ⟨ps, tail, hps, hbefore, haligned, -⟩ :=
      Patch.exists_of_apart source [] rfl (fun e _ => Nat.zero_le _)
        (pairwise_acceptedFrom source.size 0 edits) hslice
    have hsplice := Patch.spliced_before haligned tail
    rw [hbefore, hps] at hsplice
    exact ⟨_, (splicedFrom_acceptedFrom source.size 0 source edits).symm.trans hsplice⟩

/-- **Splicing fails only at an edit that it takes.** There is no result just when a span that is
`taken` starts or ends inside a character (`Text.IsBoundary`). The edits that are passed over have
no part in that, wherever their spans start and end: without them the outcome is the same, a result
or none. -/
theorem spliced_eq_none_iff (source : Text) (edits : List Edit) :
    (spliced source edits = none ↔
      ∃ e ∈ taken source edits,
        ¬source.IsBoundary e.span.start ∨ ¬source.IsBoundary e.span.stop) ∧
    spliced source edits = spliced source (taken source edits) := by
  constructor
  · rw [Option.eq_none_iff_forall_ne_some, ← not_exists, exists_spliced_iff]
    simp only [Classical.not_forall, Classical.not_and_iff_not_or_not, exists_prop]
  · rw [← accepted_eq_taken]
    exact (splicedFrom_acceptedFrom source.size 0 source edits).symm

-- An end inside `é` counts although no edit follows, and does not if the edit comes too late.
example :
    let edit (start stop : Nat) : Edit :=
      ⟨.importDeclaration, .relative, .single, ⟨start, stop⟩, 1, start + 1, [], []⟩
    spliced ['a', 'é'] [edit 0 2] = none ∧ spliced ['a', 'é'] [edit 0 3, edit 2 2] = some [] := by
  decide

end DotJs
