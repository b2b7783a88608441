import Mathlib.Algebra.Ring.Int.Defs
import DotJs.Proofs.Patch

/-!
# Splicing any list of edits

A list of edits may be in any order, and the spans in it may overlap, run backwards or end behind
the text. Splicing takes some of them and passes over the others. `takenAfter` says which, without a
cursor: an edit is taken if its span lies in the text and behind all that were taken before.

* `acceptedFrom_eq_takenAfter`: the cursor of splicing stands where the last span that was taken
  ends, and this is behind all of them;
* `exists_patches_of_splicedFrom`: where splicing has a result, the edits that are taken are those
  of patches that make up the text;
* `spliced_takes_apart` says what follows for the result.
-/

namespace DotJs

/-- The edits of a list that are taken in a text of `size` bytes, when some were taken before. It
has no cursor: an edit is compared with all that were taken. -/
def takenAfter (size : Nat) (earlier : List Edit) : List Edit → List Edit
  | [] => []
  | e :: edits =>
    if (e.span.start ≤ e.span.stop ∧ e.span.stop ≤ size) ∧
        ∀ t ∈ earlier, t.span.stop ≤ e.span.start then
      e :: takenAfter size (e :: earlier) edits
    else
      takenAfter size earlier edits

/-- The edits of a list that are taken in a text. `accepted` says the same with the cursor of
`spliced`. -/
def taken (source : Text) (edits : List Edit) : List Edit := takenAfter source.size [] edits

/-! ## The edits that are taken -/

variable {size cursor : Nat} {edits earlier : List Edit}

/-- A span starts behind all that were taken before just when it starts behind the cursor. The
hypothesis `h` says that the cursor is the greatest end of a span that was taken. -/
theorem acceptedFrom_eq_takenAfter
    (h : ∀ n, cursor ≤ n ↔ ∀ t ∈ earlier, t.span.stop ≤ n) :
    acceptedFrom size cursor edits = takenAfter size earlier edits := by
  induction edits generalizing cursor earlier with
  | nil => rfl
  | cons e edits ih =>
    have hstart := h e.span.start
    rw [acceptedFrom, takenAfter]
    split
    · next htaken =>
      -- behind the new span is behind the cursor too, which stands before it
      have hbehind : ∀ n, e.span.stop ≤ n ↔ ∀ t ∈ e :: earlier, t.span.stop ≤ n := by
        intro n
        rw [List.forall_mem_cons, ← h]
        omega
      rw [if_pos ⟨htaken.2, hstart.mp htaken.1⟩, ih hbehind]
    · next hdropped =>
      rw [if_neg fun htaken => hdropped ⟨hstart.mpr htaken.2, htaken.1⟩]
      exact ih h

theorem accepted_eq_taken (source : Text) (edits : List Edit) :
    accepted source edits = taken source edits :=
  acceptedFrom_eq_takenAfter fun n => by simp

theorem acceptedFrom_sublist (size cursor : Nat) (edits : List Edit) :
    (acceptedFrom size cursor edits).Sublist edits := by
  induction edits generalizing cursor with
  | nil => exact List.Sublist.refl _
  | cons e edits ih =>
    rw [acceptedFrom]
    split
    · exact (ih _).cons_cons e
    · exact (ih _).cons e

/-- The spans that are taken (`acceptedFrom`) lie in the text, behind the cursor. -/
theorem forall_mem_acceptedFrom {e : Edit} (h : e ∈ acceptedFrom size cursor edits) :
    cursor ≤ e.span.start ∧ e.span.start ≤ e.span.stop ∧ e.span.stop ≤ size := by
  induction edits generalizing cursor with
  | nil => cases h
  | cons e' edits ih =>
    rw [acceptedFrom] at h
    split at h
    · next htaken =>
      rcases List.mem_cons.mp h with rfl | h
      · exact htaken
      · have := ih h
        omega
    · exact ih h

/-- The spans that are taken are in order and apart from each other, whatever the list was. -/
theorem pairwise_acceptedFrom (size cursor : Nat) (edits : List Edit) :
    (acceptedFrom size cursor edits).Pairwise fun a b => a.span.stop ≤ b.span.start := by
  induction edits generalizing cursor with
  | nil => exact List.Pairwise.nil
  | cons e edits ih =>
    rw [acceptedFrom]
    split
    · exact List.pairwise_cons.mpr ⟨fun b hb => (forall_mem_acceptedFrom hb).1, ih _⟩
    · exact ih _

/-- All edits are taken just when their spans lie in the text, in order and apart from each
other. -/
theorem acceptedFrom_eq_self_iff :
    acceptedFrom size cursor edits = edits ↔
      (∀ e ∈ edits, cursor ≤ e.span.start ∧ e.span.start ≤ e.span.stop ∧ e.span.stop ≤ size) ∧
        edits.Pairwise fun a b => a.span.stop ≤ b.span.start := by
  constructor
  · intro h
    rw [← h]
    exact ⟨fun e => forall_mem_acceptedFrom, pairwise_acceptedFrom size cursor edits⟩
  · rintro ⟨hfits, hapart⟩
    induction edits generalizing cursor with
    | nil => rfl
    | cons e edits ih =>
      obtain ⟨hbehind, hapart⟩ := List.pairwise_cons.mp hapart
      obtain ⟨hfit, hfits⟩ := List.forall_mem_cons.mp hfits
      rw [acceptedFrom, if_pos hfit, ih (fun e' he' => ⟨hbehind e' he', (hfits e' he').2⟩) hapart]

/-! ## The result -/

/-- The edits that are passed over make no difference, not even to whether there is a result. -/
theorem splicedFrom_acceptedFrom (size cursor : Nat) (rest : Text) (edits : List Edit) :
    splicedFrom size cursor rest (acceptedFrom size cursor edits) =
      splicedFrom size cursor rest edits := by
  induction edits generalizing cursor rest with
  | nil => rfl
  | cons e edits ih =>
    rw [acceptedFrom]
    split
    · next htaken =>
      have hkeeps : ¬(e.span.start < cursor ∨ size < e.span.stop ∨ e.span.stop < e.span.start) := by
        omega
      simp only [splicedFrom, if_neg hkeeps, ih]
    · next hdropped =>
      have hdrops : e.span.start < cursor ∨ size < e.span.stop ∨ e.span.stop < e.span.start := by
        omega
      rw [ih, splicedFrom, if_pos hdrops]

/-- **Where splicing has a result, it puts together patches.** The edits that are taken cut the text
into stretches that stay and stretches that they replace (`Patch`). -/
theorem exists_patches_of_splicedFrom {rest out : Text}
    (h : splicedFrom size cursor rest edits = some out) :
    ∃ ps tail, ps.map (·.edit) = acceptedFrom size cursor edits ∧ Patch.Aligned cursor ps ∧
      Patch.before ps tail = rest ∧ Patch.after ps tail = out := by
  induction edits generalizing cursor rest out with
  | nil => exact ⟨[], rest, rfl, trivial, rfl, Option.some.inj h⟩
  | cons e edits ih =>
    rw [splicedFrom] at h
    rw [acceptedFrom]
    split at h
    · next hdrops =>
      rw [if_neg (by omega)]
      exact ih h
    · next hkeeps =>
      rw [if_pos (by omega)]
      split at h
      · cases h
      · next kept behind hkept =>
        split at h
        · cases h
        · next old rest' hold =>
          obtain ⟨out', hout, rfl⟩ := Option.map_eq_some_iff.mp h
          obtain ⟨rfl, hsizeKept⟩ := Text.cut?_eq_some hkept
          obtain ⟨rfl, hsizeOld⟩ := Text.cut?_eq_some hold
          obtain ⟨ps, tail, hedits, haligned, hbefore, hafter⟩ := ih hout
          have hhead : e.span.start = cursor + kept.size ∧
              e.span.stop = e.span.start + old.size := by omega
          refine ⟨⟨kept, old, e⟩ :: ps, tail, by rw [List.map_cons, hedits],
            ⟨hhead.1, hhead.2, haligned⟩, by rw [Patch.before, hbefore], ?_⟩
          rw [Patch.after, hafter, List.append_assoc]

/-- Each replacement changes the size of the text by what it has more than its span. The sum is one
of integers, as a replacement may be shorter. -/
theorem Patch.size_after_add {ps : List Patch} (h : Aligned cursor ps) (tail : Text) :
    ((after ps tail).size : Int) = (before ps tail).size +
      ((ps.map (·.edit)).map fun e =>
        (e.replacement.size : Int) - ((e.span.stop : Int) - e.span.start)).sum := by
  induction ps generalizing cursor with
  | nil => simp [after, before]
  | cons p ps ih =>
    obtain ⟨hstart, hstop, hrest⟩ := h
    have hsize := ih hrest
    simp only [after, before, Text.size_append, List.map_cons, List.sum_cons, Int.natCast_add]
    omega

/-- **Splicing takes edits that lie in the text, each behind those taken before.** Whatever the list
is, where there is a result, the edits that are `taken` make it up:

* the text is a row of stretches that stay (`Patch.before`), each but the last one with the span of
  the next edit that is taken behind it, and the result is the same row with the replacements in
  place of the spans;
* each edit that is taken adds what its replacement has more than its span to the size;
* the other edits can be left out of the list;
* the spans of those that are taken lie in the text, in order and apart from each other, and if the
  spans of all edits do, all of them are taken. A span may start where another one ends, and be
  empty. -/
theorem spliced_takes_apart (source : Text) (edits : List Edit) (out : Text)
    (h : spliced source edits = some out) :
    (taken source edits).Sublist edits ∧
    (∃ ps tail, ps.map (·.edit) = taken source edits ∧ Patch.Aligned 0 ps ∧
      Patch.before ps tail = source ∧ Patch.after ps tail = out) ∧
    (out.size : Int) = source.size +
      ((taken source edits).map fun e =>
        (e.replacement.size : Int) - ((e.span.stop : Int) - e.span.start)).sum ∧
    spliced source (taken source edits) = some out ∧
    (∀ e ∈ taken source edits, e.span.start ≤ e.span.stop ∧ e.span.stop ≤ source.size) ∧
    (taken source edits).Pairwise (fun a b => a.span.stop ≤ b.span.start) ∧
    (taken source edits = edits ↔
      (∀ e ∈ edits, e.span.start ≤ e.span.stop ∧ e.span.stop ≤ source.size) ∧
        edits.Pairwise fun a b => a.span.stop ≤ b.span.start) := by
  obtain ⟨ps, tail, hps, haligned, hbefore, hafter⟩ := exists_patches_of_splicedFrom h
  have hsize := Patch.size_after_add haligned tail
  have hsame : spliced source (accepted source edits) = some out :=
    (splicedFrom_acceptedFrom source.size 0 source edits).trans h
  have hall : accepted source edits = edits ↔
      (∀ e ∈ edits, e.span.start ≤ e.span.stop ∧ e.span.stop ≤ source.size) ∧
        edits.Pairwise fun a b => a.span.stop ≤ b.span.start := by
    have hfrom : acceptedFrom source.size 0 edits = edits ↔ _ := acceptedFrom_eq_self_iff
    simpa only [accepted, Nat.zero_le, true_and] using hfrom
  rw [← accepted_eq_taken]
  rw [hbefore, hafter, hps] at hsize
  exact ⟨acceptedFrom_sublist _ _ _, ⟨ps, tail, hps, haligned, hbefore, hafter⟩, hsize, hsame,
    fun e he => (forall_mem_acceptedFrom he).2, pairwise_acceptedFrom _ _ _, hall⟩

/-- One edit after the other: one that is taken, one that overlaps it and cuts a character in two,
one that runs backwards, an empty one behind the first, one that ends behind the text, one that
comes too late, and one that takes the last character out. -/
theorem spliced_takes_apart_mixed :
    let edit (start stop : Nat) (replacement : Text) : Edit :=
      ⟨.importDeclaration, .relative, .single, ⟨start, stop⟩, 1, start + 1, [], replacement⟩
    let source : Text := ['a', 'é', 'b', 'c', 'd']
    let edits := [edit 1 3 ['X'], edit 2 4 ['Y'], edit 5 4 ['Z'], edit 3 3 ['W'], edit 4 9 ['V'],
      edit 0 1 ['U'], edit 5 6 []]
    let out : Text := ['a', 'X', 'W', 'b', 'c']
    spliced source edits = some out ∧
      taken source edits = [edit 1 3 ['X'], edit 3 3 ['W'], edit 5 6 []] ∧
      spliced source [edit 1 3 ['X'], edit 3 3 ['W'], edit 5 6 []] = some out := by
  intro edit source edits out
  have h : spliced source edits = some out := by decide +kernel
  have htaken : taken source edits = [edit 1 3 ['X'], edit 3 3 ['W'], edit 5 6 []] := by
    decide +kernel
  obtain ⟨-, -, -, hsame, -⟩ := spliced_takes_apart source edits out h
  exact ⟨h, htaken, htaken ▸ hsame⟩

end DotJs
