import DotJs.Proofs.Boundaries

/-!
# Splicing one edit after the other

Splicing takes all edits of a list in one go, and all their spans are places of the old text. The
same can be done in turn, with one edit for each text.

* `splicedBackward` starts with the last edit. What lies before it has not moved when its turn
  comes, so the spans stay as they are.
* `splicedForward` starts with the first one. Each later span has moved by what the texts so far
  have grown or shrunk (`Edit.growth`).

For edits that lie apart from each other both lead to the text that splicing leads to
(`spliced_in_turn`). The proofs follow the patches of the text: in the one direction from the last
patch, with the old text still in front, in the other from the first one, with the new text in
front.
-/

namespace DotJs

/-! ## Edits in turn -/

/-- The bytes by which an edit makes a text longer. It is negative when the replacement is shorter
than the span. -/
def Edit.growth (e : Edit) : Int :=
  (e.replacement.size : Int) - ((e.span.stop : Int) - e.span.start)

/-- A `Span` some bytes further on, or further back, unless that would be before the text. -/
def Span.shifted? (shift : Int) (s : Span) : Option Span :=
  match (s.start : Int) + shift, (s.stop : Int) + shift with
  | .ofNat start, .ofNat stop => some ⟨start, stop⟩
  | _, _ => none

/-- Carries out one edit after the other, the last one first (`foldrM`), so that no span needs to be
shifted. -/
def splicedBackward (source : Text) (edits : List Edit) : Option Text :=
  edits.foldrM (fun e text => spliced text [e]) source

/-- Carries out one edit after the other, the first one first, in a text that has grown by `shift`
bytes. Each edit adds its `growth`. -/
def splicedForward : (shift : Int) → Text → List Edit → Option Text
  | _, text, [] => some text
  | shift, text, e :: edits => do
    let span ← e.span.shifted? shift
    let text ← spliced text [{ e with span }]
    splicedForward (shift + e.growth) text edits

theorem Span.shifted?_eq_some {shift : Int} {s : Span} {start stop : Nat}
    (hstart : (s.start : Int) + shift = start) (hstop : (s.stop : Int) + shift = stop) :
    s.shifted? shift = some ⟨start, stop⟩ := by
  rw [Span.shifted?, hstart, hstop]

/-! ## Along the patches of a text -/

namespace Patch

/-- Splicing a single edit `e` puts its replacement in place of a stretch. -/
theorem spliced_singleton {e : Edit} {kept old : Text} (hstart : e.span.start = kept.size)
    (hstop : e.span.stop = e.span.start + old.size) (tail : Text) :
    spliced (kept ++ (old ++ tail)) [e] = some (kept ++ (e.replacement ++ tail)) := by
  have haligned : Aligned 0 [⟨kept, old, e⟩] := ⟨hstart.trans (Nat.zero_add _).symm, hstop, trivial⟩
  exact spliced_before haligned tail

/-- From the last patch to the first, with old text in `front`: what is spliced next lies in it. -/
theorem splicedBackward_before (front : Text) {ps : List Patch} {tail : Text}
    (h : Aligned front.size ps) :
    splicedBackward (front ++ before ps tail) (ps.map (·.edit)) =
      some (front ++ after ps tail) := by
  induction ps generalizing front with
  | nil => rfl
  | cons p ps ih =>
    obtain ⟨hstart, hstop, hrest⟩ := h
    have hstart' : p.edit.span.start = (front ++ p.kept).size := by rw [Text.size_append, hstart]
    have hsize : p.edit.span.stop = (front ++ p.kept ++ p.old).size := by
      rw [Text.size_append, hstop, hstart']
    rw [hsize] at hrest
    -- while the later patches are dealt with, the first one is a part of the old text in front
    have hlater := ih _ hrest
    simp only [List.append_assoc] at hlater
    have hfirst := spliced_singleton hstart' hstop (after ps tail)
    simp only [List.append_assoc] at hfirst
    rw [splicedBackward] at hlater ⊢
    rw [List.map_cons, List.foldrM_cons, before, hlater]
    exact hfirst

/-- From the first patch to the last, with new text in `front`: what was spliced lies in it. -/
theorem splicedForward_before (front : Text) {cursor : Nat} {shift : Int} {ps : List Patch}
    {tail : Text} (h : Aligned cursor ps) (hfront : (front.size : Int) = cursor + shift) :
    splicedForward shift (front ++ before ps tail) (ps.map (·.edit)) =
      some (front ++ after ps tail) := by
  induction ps generalizing front cursor shift with
  | nil => rfl
  | cons p ps ih =>
    obtain ⟨hstart, hstop, hrest⟩ := h
    have hspan : p.edit.span.shifted? shift =
        some ⟨(front ++ p.kept).size, (front ++ p.kept).size + p.old.size⟩ := by
      apply Span.shifted?_eq_some
      · rw [Text.size_append]
        omega
      · rw [Text.size_append]
        omega
    let e : Edit :=
      { p.edit with span := ⟨(front ++ p.kept).size, (front ++ p.kept).size + p.old.size⟩ }
    have hfirst : spliced (front ++ p.kept ++ (p.old ++ before ps tail)) [e] =
        some (front ++ p.kept ++ (p.edit.replacement ++ before ps tail)) :=
      spliced_singleton rfl rfl _
    -- the new front is as long as the shift of the spans that are left says
    have hgrown : ((front ++ p.kept ++ p.edit.replacement).size : Int) =
        p.edit.span.stop + (shift + p.edit.growth) := by
      simp only [Edit.growth, Text.size_append]
      omega
    have hlater := ih (front ++ p.kept ++ p.edit.replacement) hrest hgrown
    simp only [List.append_assoc] at hfirst hlater
    rw [List.map_cons, splicedForward, hspan, before, after]
    change (spliced (front ++ (p.kept ++ (p.old ++ before ps tail))) [e]).bind _ = _
    rw [hfirst]
    exact hlater

end Patch

/-- **Edits that lie apart can be carried out in turn.** If the spans of some edits lie between
boundaries of a text (`IsBoundary`), in order and apart from each other, splicing has a result. It
is what is left after one edit at a time from the last to the first (`splicedBackward`), and also
after one at a time from the first to the last (`splicedForward`), each at its span shifted by what
the edits before it have added to the text. Spans may be empty, and one may start where another one
ends. -/
theorem spliced_in_turn (source : Text) (edits : List Edit)
    (hspans : ∀ e ∈ edits, e.span.start ≤ e.span.stop ∧
      source.IsBoundary e.span.start ∧ source.IsBoundary e.span.stop)
    (hapart : edits.Pairwise fun a b => a.span.stop ≤ b.span.start) :
    ∃ out, spliced source edits = some out ∧ splicedBackward source edits = some out ∧
      splicedForward 0 source edits = some out := by
  obtain ⟨ps, tail, rfl, rfl, haligned, -⟩ :=
    Patch.exists_of_apart source [] rfl (fun e _ => Nat.zero_le _) hapart
      fun e he => Text.exists_slice?_iff.mpr (hspans e he)
  exact ⟨_, Patch.spliced_before haligned tail, Patch.splicedBackward_before [] haligned,
    Patch.splicedForward_before [] haligned rfl⟩

/-- A span that shrinks to nothing, two insertions at its end, and the last two characters made
longer. -/
theorem spliced_in_turn_mixed :
    let edit (start stop : Nat) (replacement : Text) : Edit :=
      ⟨.importDeclaration, .relative, .single, ⟨start, stop⟩, 1, start + 1, [], replacement⟩
    let source : Text := ['a', 'é', 'b', 'c', 'd']
    let edits := [edit 1 3 [], edit 3 3 ['X'], edit 3 3 ['Y'], edit 4 6 ['ü', 'Z', 'W']]
    let out : Text := ['a', 'X', 'Y', 'b', 'ü', 'Z', 'W']
    (∀ e ∈ edits, e.span.start ≤ e.span.stop ∧
      source.IsBoundary e.span.start ∧ source.IsBoundary e.span.stop) ∧
    edits.Pairwise (fun a b => a.span.stop ≤ b.span.start) ∧
    spliced source edits = some out ∧ splicedBackward source edits = some out ∧
      splicedForward 0 source edits = some out := by
  intro edit source edits out
  have hspans : ∀ e ∈ edits, e.span.start ≤ e.span.stop ∧
      source.IsBoundary e.span.start ∧ source.IsBoundary e.span.stop := by decide +kernel
  have hapart : edits.Pairwise fun a b => a.span.stop ≤ b.span.start := by decide +kernel
  have hout : spliced source edits = some out := by decide +kernel
  obtain ⟨out', hsame, hbackward, hforward⟩ := spliced_in_turn source edits hspans hapart
  obtain rfl := Option.some.inj (hsame.symm.trans hout)
  exact ⟨hspans, hapart, hout, hbackward, hforward⟩

end DotJs
