import DotJs.Proofs.Patch
import DotJs.StringLiteral

/-!
# Splicing that only inserts

The edits of rewritten specifiers are of one kind: the replacement is the old literal with
`.js` before its last character, the closing quote. `Edit.Extends` says so of an edit. For
patches with such edits, splicing

* puts `.js` before the last byte of each span and changes nothing else
  (`Patch.after_eq_inserted`);
* makes the text longer by three bytes for each edit (`Patch.size_after`);
* is undone by cutting these bytes out again (`Patch.splicedFrom_withdrawals`).
-/

namespace DotJs

/-- A text, from byte `offset` on of a longer one, with `piece` put before each character that
starts at one of some `offsets`. It knows nothing of edits, and so can say what the edits of a
rewritten program amount to. -/
def Text.inserted (piece : Text) (offsets : List Nat) : (offset : Nat) → Text → Text
  | _, [] => []
  | offset, c :: rest =>
    (if offset ∈ offsets then piece else []) ++
      c :: Text.inserted piece offsets (offset + c.utf8Size) rest

/-- The edits that take three bytes out again wherever an edit of a list put them in before its last
byte. All places are `shift` bytes, and three for each edit before, further on, since the text has
grown by then. -/
def withdrawals : (shift : Nat) → List Edit → List Edit
  | _, [] => []
  | shift, e :: edits =>
    { e with
      span := ⟨e.span.stop - 1 + shift, e.span.stop - 1 + shift + dotJs.size⟩
      original := dotJs
      replacement := [] } :: withdrawals (shift + dotJs.size) edits

/-- Whether an edit extends a literal: a quote `q` closes the old text and the new one, and the new
one has `.js` before it. `q` may be any character of one byte, so the two quotes need no case
each. -/
def Edit.Extends (e : Edit) (old : Text) : Prop :=
  ∃ body q, q.utf8Size = 1 ∧ old = body ++ [q] ∧ e.replacement = body ++ (dotJs ++ [q])

namespace Text

variable {piece : Text} {offsets : List Nat}

theorem inserted_append (offset : Nat) (a b : Text) :
    inserted piece offsets offset (a ++ b)
      = inserted piece offsets offset a ++ inserted piece offsets (offset + a.size) b := by
  induction a generalizing offset with
  | nil => rfl
  | cons c a ih =>
    rw [List.cons_append, inserted, inserted, ih, size_cons, Nat.add_assoc, List.append_assoc,
      List.cons_append]

/-- Nothing is put into a text at whose characters no offset lies, such as the kept stretch of a
patch. -/
theorem inserted_eq_self {offset : Nat} {t : Text}
    (h : ∀ o ∈ offsets, offset ≤ o → offset + t.size ≤ o) :
    inserted piece offsets offset t = t := by
  induction t generalizing offset with
  | nil => rfl
  | cons c t ih =>
    have hc : 0 < c.utf8Size := c.utf8Size_pos
    simp only [size_cons] at h
    have hhead : offset ∉ offsets := by
      intro hmem
      have := h offset hmem (Nat.le_refl _)
      omega
    rw [inserted, if_neg hhead, List.nil_append, ih]
    intro o ho hle
    have := h o ho (by omega)
    omega

end Text

namespace Patch

/-- Later spans end behind earlier ones, which is why the offsets of the later edits do not show in
the patches before. -/
theorem Aligned.stop_le {cursor : Nat} {ps : List Patch} (h : Aligned cursor ps) {p : Patch}
    (hp : p ∈ ps) : cursor + p.old.size ≤ p.edit.span.stop := by
  induction ps generalizing cursor with
  | nil => exact absurd hp List.not_mem_nil
  | cons p' ps ih =>
    obtain ⟨hstart, hstop, hrest⟩ := h
    rcases List.mem_cons.mp hp with rfl | hp
    · omega
    · have := ih hrest hp
      omega

/-- Splicing edits that extend literals puts `.js` before the closing quote of each, and changes
nothing else. `offsets` may hold places before `cursor` too: they are those of the patches that the
induction has left behind. -/
theorem after_eq_inserted {cursor : Nat} {ps : List Patch} {tail : Text} {offsets : List Nat}
    (h : Aligned cursor ps) (hext : ∀ p ∈ ps, p.edit.Extends p.old)
    (hoff : ∀ o, cursor ≤ o → (o ∈ offsets ↔ o ∈ ps.map fun p => p.edit.span.stop - 1)) :
    after ps tail = Text.inserted dotJs offsets cursor (before ps tail) := by
  induction ps generalizing cursor with
  | nil =>
    refine (Text.inserted_eq_self fun o ho hle => ?_).symm
    exact absurd ((hoff o hle).mp ho) List.not_mem_nil
  | cons p ps ih =>
    obtain ⟨hstart, hstop, hrest⟩ := h
    obtain ⟨body, q, hq, hold, hnew⟩ := hext p List.mem_cons_self
    have hextRest : ∀ p' ∈ ps, p'.edit.Extends p'.old :=
      fun p' hp' => hext p' (List.mem_cons_of_mem p hp')
    rw [hold, Text.size_append, Text.size_cons, Text.size_nil, hq] at hstop
    -- the offsets of later patches lie behind this one, as their literals are not empty
    have hlater : ∀ o ∈ ps.map fun p => p.edit.span.stop - 1, p.edit.span.stop ≤ o := by
      intro o ho
      obtain ⟨p', hp', rfl⟩ := List.mem_map.mp ho
      obtain ⟨body', q', hq', hold', -⟩ := hextRest p' hp'
      have hle := hrest.stop_le hp'
      rw [hold', Text.size_append, Text.size_cons, Text.size_nil, hq'] at hle
      omega
    have hnone : ∀ o ∈ offsets, cursor ≤ o → cursor + (p.kept ++ body).size ≤ o := by
      intro o ho hle
      rw [Text.size_append]
      rcases List.mem_cons.mp ((hoff o hle).mp ho) with heq | hmem
      · have heq : o = p.edit.span.stop - 1 := heq
        omega
      · have := hlater o hmem
        omega
    have hquote : cursor + (p.kept ++ body).size ∈ offsets := by
      rw [Text.size_append]
      refine (hoff _ (by omega)).mpr (List.mem_cons.mpr (.inl ?_))
      change _ = p.edit.span.stop - 1
      omega
    have hoffRest : ∀ o, p.edit.span.stop ≤ o →
        (o ∈ offsets ↔ o ∈ ps.map fun p => p.edit.span.stop - 1) := by
      intro o hle
      rw [hoff o (by omega), List.map_cons, List.mem_cons, or_iff_right]
      omega
    have hbehind : cursor + (p.kept ++ body).size + q.utf8Size = p.edit.span.stop := by
      rw [Text.size_append, hq]
      omega
    calc after (p :: ps) tail
        = (p.kept ++ body) ++ (dotJs ++ q :: after ps tail) := by
          rw [after, hnew]
          simp only [List.append_assoc, List.cons_append, List.nil_append]
      _ = Text.inserted dotJs offsets cursor ((p.kept ++ body) ++ q :: before ps tail) := by
          rw [Text.inserted_append, Text.inserted_eq_self hnone, Text.inserted, if_pos hquote,
            hbehind, ih hrest hextRest hoffRest]
      _ = Text.inserted dotJs offsets cursor (before (p :: ps) tail) := by
          rw [before, hold]
          simp only [List.append_assoc, List.cons_append, List.nil_append]

theorem size_after {ps : List Patch} {tail : Text} (hext : ∀ p ∈ ps, p.edit.Extends p.old) :
    (after ps tail).size = (before ps tail).size + 3 * ps.length := by
  induction ps with
  | nil => rfl
  | cons p ps ih =>
    obtain ⟨body, q, hq, hold, hnew⟩ := hext p List.mem_cons_self
    have hdot : dotJs.size = 3 := by decide
    have hrest := ih fun p' hp' => hext p' (List.mem_cons_of_mem p hp')
    rw [after, before, hold, hnew]
    simp only [Text.size_append, Text.size_cons, Text.size_nil, hdot, List.length_cons, hrest]
    omega

/-- Cutting the insertions out again gives the text back: `withdrawals` lead from `after` to
`before`. Of the text, a part `front` may stand before the first patch, from byte `cursor` on, since
the closing quote of one patch is joined to the stretch that the next one keeps. -/
theorem splicedFrom_withdrawals (front : Text) {size cursor origin shift : Nat}
    {ps : List Patch} {tail : Text} (h : Aligned origin ps) (hext : ∀ p ∈ ps, p.edit.Extends p.old)
    (hcursor : cursor + front.size = origin + shift)
    (hsize : cursor + (front ++ after ps tail).size ≤ size) :
    splicedFrom size cursor (front ++ after ps tail) (withdrawals shift (ps.map (·.edit)))
      = some (front ++ before ps tail) := by
  induction ps generalizing cursor origin shift front with
  | nil => rfl
  | cons p ps ih =>
    obtain ⟨hstart, hstop, hrest⟩ := h
    obtain ⟨body, q, hq, hold, hnew⟩ := hext p List.mem_cons_self
    have hdot : dotJs.size = 3 := by decide
    rw [hold, Text.size_append, Text.size_cons, Text.size_nil, hq] at hstop
    -- the closing quote opens the part that stands before the next patch
    have hafter : front ++ after (p :: ps) tail
        = (front ++ p.kept ++ body) ++ (dotJs ++ ([q] ++ after ps tail)) := by
      rw [after, hnew]
      simp only [List.append_assoc]
    have hbefore : front ++ before (p :: ps) tail
        = (front ++ p.kept ++ body) ++ ([q] ++ before ps tail) := by
      rw [before, hold]
      simp only [List.append_assoc]
    rw [hafter] at hsize ⊢
    simp only [Text.size_append, Text.size_cons, Text.size_nil, hdot, hq] at hsize
    rw [hbefore, List.map_cons, withdrawals, splicedFrom, hdot, if_neg (by simp only; omega)]
    have hkept : p.edit.span.stop - 1 + shift - cursor = (front ++ p.kept ++ body).size := by
      simp only [Text.size_append]
      omega
    have hcut : p.edit.span.stop - 1 + shift + 3 - (p.edit.span.stop - 1 + shift)
        = dotJs.size := by omega
    simp only [hkept, Text.cut?_size, hcut]
    rw [ih [q] hrest (fun p' hp' => hext p' (List.mem_cons_of_mem p hp'))
      (by simp only [Text.size_cons, Text.size_nil, hq]; omega)
      (by simp only [Text.size_append, Text.size_cons, Text.size_nil, hq]; omega)]
    rw [Option.map_some, List.append_nil]

end Patch

end DotJs
