import DotJs.Edit

/-!
# Splicing without a cursor

`spliced` goes through a text once, with a cursor. Here the same is said of the pieces of
the text: a `Patch` is a stretch that stays and the stretch behind it that an edit
replaces, and a text is some patches and a tail.

* `Patch.before` and `Patch.after` are the texts with the old stretches and with the
  replacements;
* `Patch.Aligned` says that the spans of the edits lie where the old stretches do;
* `Patch.splicedFrom_before`: splicing leads from the one text to the other;
* `Patch.exists_of_apart`: edits that lie in order, apart from each other and between
  characters, are the edits of patches that make up the text.

`accepted` lists the edits that splicing carries out. Of aligned patches that is each.
-/

namespace DotJs

/-! ## Slices -/

namespace Text

theorem size_eq_zero {t : Text} : t.size = 0 ↔ t = [] := by
  cases t with
  | nil => simp
  | cons c t =>
    have hc : 0 < c.utf8Size := c.utf8Size_pos
    simp only [size_cons, reduceCtorEq, iff_false]
    omega

/-- `slice?` succeeds when the text can be cut at both ends of the slice. This is how a slice by
bytes becomes an equation between texts. -/
theorem slice?_eq_some_iff {t s : Text} {start stop : Nat} :
    t.slice? start stop = some s ↔
      ∃ a b, t = a ++ (s ++ b) ∧ a.size = start ∧ start + s.size = stop := by
  constructor
  · intro h
    simp only [slice?] at h
    split at h
    · next hle =>
      rcases hcut : cut? start t with _ | ⟨a, rest⟩
      · rw [hcut] at h
        cases h
      · rw [hcut] at h
        obtain ⟨⟨s', b⟩, hcut', hs⟩ := Option.map_eq_some_iff.mp h
        obtain rfl : s' = s := hs
        obtain ⟨rfl, ha⟩ := cut?_eq_some hcut
        obtain ⟨rfl, hsize⟩ := cut?_eq_some hcut'
        exact ⟨a, b, rfl, ha, by omega⟩
    · cases h
  · rintro ⟨a, b, rfl, rfl, rfl⟩
    simp only [slice?]
    rw [if_pos (Nat.le_add_right _ _), cut?_size]
    have hsize : a.size + s.size - a.size = s.size := by omega
    simp only [hsize, cut?_size]
    rfl

/-- Of two ways to cut a text in two, the one with the longer first half cuts the second half of the
other: `k` is what lies between the two cuts. -/
theorem exists_of_append_eq_append {a b c d : Text} (h : a ++ b = c ++ d)
    (hle : a.size ≤ c.size) : ∃ k, c = a ++ k ∧ b = k ++ d := by
  rcases List.append_eq_append_iff.mp h with ⟨k, hc, hb⟩ | ⟨k, ha, hd⟩
  · exact ⟨k, hc, hb⟩
  · have hk : k = [] := by
      rw [ha, size_append] at hle
      exact size_eq_zero.mp (by omega)
    subst hk
    exact ⟨[], by simpa using ha.symm, by simpa using hd.symm⟩

end Text

/-! ## Which edits are carried out -/

/-- The edits that splicing carries out from byte `cursor` on in a text of `size` bytes, by the same
test that `splicedFrom` makes. An edit that is carried out moves the cursor behind its span, and one
that is not is dropped without a trace. -/
def acceptedFrom (size : Nat) : (cursor : Nat) → List Edit → List Edit
  | _, [] => []
  | cursor, e :: edits =>
    if cursor ≤ e.span.start ∧ e.span.start ≤ e.span.stop ∧ e.span.stop ≤ size then
      e :: acceptedFrom size e.span.stop edits
    else
      acceptedFrom size cursor edits

/-- The edits that `spliced` carries out on a text. It says which they are without saying what the
text becomes. -/
def accepted (source : Text) (edits : List Edit) : List Edit := acceptedFrom source.size 0 edits

/-! ## Patches -/

/-- A stretch of a text that stays, and the stretch behind it, which an edit replaces. The two are
texts and not byte offsets (`Span`), so that a text made of patches is cut between characters by
construction. -/
structure Patch where
  /-- the stretch that stays -/
  kept : Text
  /-- the stretch that is replaced -/
  old : Text
  /-- the edit that replaces it -/
  edit : Edit

namespace Patch

/-- The text of patches and a `tail` as it is before the edits, with the `old` stretches in it. -/
def before : List Patch → Text → Text
  | [], tail => tail
  | p :: ps, tail => p.kept ++ (p.old ++ before ps tail)

/-- The text of patches and a `tail` once each `old` stretch is replaced: `before` with
`edit.replacement` for `old`. -/
def after : List Patch → Text → Text
  | [], tail => tail
  | p :: ps, tail => p.kept ++ (p.edit.replacement ++ after ps tail)

/-- Whether the edits lie where their stretches do, the first patch being at byte `cursor`. `Patch`
leaves this open, since the place of a patch depends on all patches before it. -/
def Aligned : (cursor : Nat) → List Patch → Prop
  | _, [] => True
  | cursor, p :: ps =>
    p.edit.span.start = cursor + p.kept.size ∧
      p.edit.span.stop = p.edit.span.start + p.old.size ∧ Aligned p.edit.span.stop ps

/-- Aligned patches are carried out one and all: `acceptedFrom` drops none of their edits, as each
starts where the one before it stops or further on. -/
theorem acceptedFrom_eq {size cursor : Nat} {ps : List Patch} {tail : Text}
    (h : Aligned cursor ps) (hsize : cursor + (before ps tail).size ≤ size) :
    acceptedFrom size cursor (ps.map (·.edit)) = ps.map (·.edit) := by
  induction ps generalizing cursor with
  | nil => rfl
  | cons p ps ih =>
    obtain ⟨hstart, hstop, hrest⟩ := h
    simp only [before, Text.size_append] at hsize
    -- the stretches before the next patch are a part of the text, so its span lies within
    have hfits : cursor ≤ p.edit.span.start ∧ p.edit.span.start ≤ p.edit.span.stop ∧
        p.edit.span.stop ≤ size := by omega
    rw [List.map_cons, acceptedFrom, if_pos hfits, ih hrest (by omega)]

/-- Splicing puts the replacements of aligned patches in place of the old stretches, that is, leads
from `before` to `after`. The induction is on the patches, with the cursor moving along. -/
theorem splicedFrom_before {size cursor : Nat} {ps : List Patch} {tail : Text}
    (h : Aligned cursor ps) (hsize : cursor + (before ps tail).size ≤ size) :
    splicedFrom size cursor (before ps tail) (ps.map (·.edit)) = some (after ps tail) := by
  induction ps generalizing cursor with
  | nil => rfl
  | cons p ps ih =>
    obtain ⟨hstart, hstop, hrest⟩ := h
    simp only [before, Text.size_append] at hsize
    have hfits : ¬(p.edit.span.start < cursor ∨ size < p.edit.span.stop ∨
        p.edit.span.stop < p.edit.span.start) := by omega
    have hkept : p.edit.span.start - cursor = p.kept.size := by omega
    have hold : p.edit.span.stop - p.edit.span.start = p.old.size := by omega
    rw [List.map_cons, before, splicedFrom, if_neg hfits, hkept, Text.cut?_size]
    simp only [hold, Text.cut?_size]
    rw [ih hrest (by omega), Option.map_some, after, List.append_assoc]

/-- `splicedFrom_before` for a text that is all patches and tail, with the cursor at its start. -/
theorem spliced_before {ps : List Patch} (h : Aligned 0 ps) (tail : Text) :
    spliced (before ps tail) (ps.map (·.edit)) = some (after ps tail) :=
  splicedFrom_before h (Nat.le_of_eq (Nat.zero_add _))

/-- Edits in order, apart from each other and between characters cut a text into aligned patches.
The text may have a part `done` before it, at whose end the cursor stands; that is what the
induction on the edits needs. -/
theorem exists_of_apart (source done : Text) {rest : Text} {edits : List Edit}
    (hsource : source = done ++ rest) (hdone : ∀ e ∈ edits, done.size ≤ e.span.start)
    (hapart : edits.Pairwise fun a b => a.span.stop ≤ b.span.start)
    (hslice : ∀ e ∈ edits, ∃ old, source.slice? e.span.start e.span.stop = some old) :
    ∃ ps tail, ps.map (·.edit) = edits ∧ before ps tail = rest ∧ Aligned done.size ps ∧
      ∀ p ∈ ps, source.slice? p.edit.span.start p.edit.span.stop = some p.old := by
  induction edits generalizing done rest with
  | nil => exact ⟨[], rest, rfl, rfl, trivial, fun p hp => absurd hp List.not_mem_nil⟩
  | cons e edits ih =>
    obtain ⟨hbehind, hapart⟩ := List.pairwise_cons.mp hapart
    obtain ⟨old, hold⟩ := hslice e List.mem_cons_self
    obtain ⟨a, b, hab, hstart, hstop⟩ := Text.slice?_eq_some_iff.mp hold
    have hle : done.size ≤ a.size := by
      rw [hstart]
      exact hdone e List.mem_cons_self
    obtain ⟨kept, rfl, hrest⟩ := Text.exists_of_append_eq_append (hsource.symm.trans hab) hle
    have hsize : (done ++ kept ++ old).size = e.span.stop := by
      rw [Text.size_append, hstart, hstop]
    have hdone' : ∀ e' ∈ edits, (done ++ kept ++ old).size ≤ e'.span.start := by
      intro e' he'
      rw [hsize]
      exact hbehind e' he'
    obtain ⟨ps, tail, hmap, hbefore, haligned, hps⟩ :=
      ih _ (by rw [hab, List.append_assoc _ old]) hdone' hapart
        fun e' he' => hslice e' (List.mem_cons_of_mem e he')
    refine ⟨⟨kept, old, e⟩ :: ps, tail, by rw [List.map_cons, hmap], ?_, ?_, ?_⟩
    · rw [hrest, before, hbefore]
    · rw [hsize] at haligned
      exact ⟨by rw [← hstart, Text.size_append], hstop.symm, haligned⟩
    · intro p hp
      rcases List.mem_cons.mp hp with rfl | hp
      · exact hold
      · exact hps p hp

end Patch

end DotJs
