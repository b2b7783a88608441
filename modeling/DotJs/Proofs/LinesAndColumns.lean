import DotJs.Proofs.JoinedPaths
import DotJs.Proofs.LastSegment
import DotJs.Proofs.Placement
import Mathlib.Algebra.Ring.Nat
import Mathlib.Data.List.Induction
import Mathlib.Data.Prod.Lex
import Mathlib.Data.Set.Function
import Mathlib.Order.Interval.Set.Defs
import Mathlib.Order.MinMax

/-!
# Lines and columns

The line of a place counts the line feeds in front of it, and the column counts the bytes behind the
last of them. The first is a count from the front and the second a search from the back; that they
mean the same line is what makes a line and a column name one offset.

* `Position.advance_eq_foldl`: characters aside, a place is reached byte by byte;
* `Position.IsBehind` tells what a place says of the bytes in front of it. One more byte is a step
  that keeps it (`IsBehind.push`), and `isBehind_foldl` is what follows for any number of them;
* `Text.lineStart` adds up lines from the front, and `Text.IsLineStart` says what a search from the
  back comes to. `IsBehind.lineStart_add` and `IsBehind.isLineStart` bring the two together.

The order of places is the lexicographic one of lines and columns (`Position.rank`).
-/

namespace DotJs

/-! ## Bytes -/

/-- The bytes of a text in UTF-8 (`String.utf8EncodeChar`), in which offsets and columns are
counted. -/
def Text.bytes (t : Text) : List UInt8 := t.flatMap String.utf8EncodeChar

/-- The byte that ends a line, `\n`. A carriage return does not, by itself or before it. -/
def lineFeed : UInt8 := '\n'.toUInt8

namespace Text

@[simp] theorem bytes_nil : bytes [] = [] := rfl

@[simp] theorem bytes_cons (c : Char) (t : Text) :
    bytes (c :: t) = String.utf8EncodeChar c ++ bytes t := rfl

theorem length_bytes (t : Text) : t.bytes.length = t.size := by
  induction t with
  | nil => rfl
  | cons c t ih => rw [bytes_cons, List.length_append, String.length_utf8EncodeChar, ih, size_cons]

end Text

/-- Only the line feed has the byte that ends a line, so lines can be counted in bytes. -/
theorem lineFeed_notMem {c : Char} (hc : c ≠ '\n') : lineFeed ∉ String.utf8EncodeChar c := by
  intro hmem
  rcases Extension.toNat_of_mem_utf8EncodeChar lineFeed hmem with heq | hle
  · exact hc (Char.toNat_inj.mp heq.symm)
  · exact absurd hle (by decide)

section Pieces

variable {α : Type} [DecidableEq α] (x : α)

/-- `piecesBetween` has one piece more than there are places to cut at. -/
theorem length_piecesBetween (t : List α) : (piecesBetween x t).length = t.count x + 1 := by
  induction t with
  | nil => rfl
  | cons y rest ih =>
    rw [piecesBetween]
    split
    · next hy => rw [hy, List.length_cons, ih, List.count_cons_self]
    · next hy =>
      obtain ⟨first, others, hpieces⟩ := List.exists_cons_of_ne_nil (piecesBetween_ne_nil x rest)
      rw [hpieces] at ih ⊢
      rw [List.count_cons_of_ne hy]
      exact ih

/-- All pieces together, each with the place behind it, are as long as the whole and one more. -/
theorem sum_length_piecesBetween (t : List α) :
    ((piecesBetween x t).map fun piece => piece.length + 1).sum = t.length + 1 := by
  induction t with
  | nil => rfl
  | cons y rest ih =>
    rw [piecesBetween]
    split
    · rw [List.map_cons, List.sum_cons, ih, List.length_cons, List.length_nil]
      omega
    · obtain ⟨first, others, hpieces⟩ := List.exists_cons_of_ne_nil (piecesBetween_ne_nil x rest)
      rw [hpieces, List.map_cons, List.sum_cons] at ih
      rw [hpieces, List.map_cons, List.sum_cons, List.length_cons, List.length_cons]
      omega

end Pieces

/-! ## Byte by byte -/

namespace Position

variable {p : Position} {bytes rest : List UInt8}

/-- The place behind one more byte. `Position.advance` takes characters, some of which it stops
inside. -/
def push (p : Position) (b : UInt8) : Position :=
  if b = lineFeed then ⟨p.line + 1, 1⟩ else ⟨p.line, p.column + 1⟩

/-- Bytes that end no line only move on in it, by `push`. -/
theorem foldl_push_of_notMem (h : lineFeed ∉ bytes) :
    bytes.foldl push p = ⟨p.line, p.column + bytes.length⟩ := by
  induction bytes generalizing p with
  | nil => rfl
  | cons b bytes ih =>
    obtain ⟨hb, hbytes⟩ := not_or.mp (mt List.mem_cons.mpr h)
    rw [List.foldl_cons, ih hbytes, push, if_neg (Ne.symm hb), List.length_cons]
    simp only [Position.mk.injEq, true_and]
    omega

/-- **A place is reached byte by byte**, also where it lies inside a character. -/
theorem advance_eq_foldl (p : Position) (n : Nat) (t : Text) :
    p.advance n t = (t.bytes.take n).foldl push p := by
  fun_induction advance p n t with
  | case1 p n => rw [Text.bytes_nil, List.take_nil, List.foldl_nil]
  | case2 p n c rest hn =>
    have hlength := String.length_utf8EncodeChar c
    have hnone : lineFeed ∉ (String.utf8EncodeChar c).take n := by
      by_cases hc : c = '\n'
      · -- the one byte of a line feed is not reached
        have hzero : n = 0 := by
          rw [hc] at hn
          exact Nat.lt_one_iff.mp hn
        rw [hzero, List.take_zero]
        exact List.not_mem_nil
      · exact fun hmem => lineFeed_notMem hc (List.mem_of_mem_take hmem)
    rw [Text.bytes_cons, List.take_append_of_le_length (by omega), foldl_push_of_notMem hnone,
      List.length_take, Nat.min_eq_left (by omega)]
  | case3 p n rest hn ih =>
    have hbytes : Text.bytes ('\n' :: rest) = lineFeed :: Text.bytes rest := rfl
    obtain ⟨m, rfl⟩ : ∃ m, n = m + 1 := Nat.exists_eq_add_of_le' (Nat.not_lt.mp hn)
    rw [ih, hbytes, List.take_succ_cons, List.foldl_cons, push, if_pos rfl]
    rfl
  | case4 p n c rest hn hc ih =>
    have hlength := String.length_utf8EncodeChar c
    have hwhole : (String.utf8EncodeChar c).take n = String.utf8EncodeChar c :=
      List.take_of_length_le (by omega)
    rw [ih, Text.bytes_cons, List.take_append, hwhole, List.foldl_append,
      foldl_push_of_notMem (lineFeed_notMem hc), hlength]

/-- What a place says of the bytes in front of it. It is an invariant of `Position.push` and
mentions no text. -/
inductive IsBehind : Position → List UInt8 → Prop
  /-- on the first line, no byte is a line feed and the column counts all of them -/
  | onFirst {line : List UInt8} (h : lineFeed ∉ line) : IsBehind ⟨1, line.length + 1⟩ line
  /-- on a later line, the column counts the bytes behind the last line feed -/
  | onLater {before line : List UInt8} (h : lineFeed ∉ line) :
      IsBehind ⟨before.count lineFeed + 2, line.length + 1⟩ (before ++ lineFeed :: line)

/-- One more byte goes on with the line or ends it. -/
theorem IsBehind.push (h : p.IsBehind bytes) (b : UInt8) : (p.push b).IsBehind (bytes ++ [b]) := by
  unfold Position.push
  by_cases hb : b = lineFeed
  · rw [if_pos hb, hb]
    cases h with
    | onFirst hline =>
      have hplace := @IsBehind.onLater bytes [] List.not_mem_nil
      rwa [List.count_eq_zero.mpr hline] at hplace
    | @onLater before line hline =>
      have hplace := @IsBehind.onLater (before ++ lineFeed :: line) [] List.not_mem_nil
      rwa [List.count_append, List.count_cons_self, List.count_eq_zero.mpr hline] at hplace
  · rw [if_neg hb]
    have hmore : ∀ {line}, lineFeed ∉ line → lineFeed ∉ line ++ [b] := fun hline hmem =>
      (List.mem_append.mp hmem).elim hline fun hlast => hb (List.mem_singleton.mp hlast).symm
    cases h with
    | onFirst hline =>
      have hplace := IsBehind.onFirst (hmore hline)
      rwa [List.length_append] at hplace
    | @onLater before line hline =>
      have hplace := @IsBehind.onLater before _ (hmore hline)
      rwa [List.length_append, ← List.cons_append, ← List.append_assoc] at hplace

/-- The place that bytes lead to from the start of a text is the one behind them (`IsBehind`). -/
theorem isBehind_foldl (bytes : List UInt8) :
    (bytes.foldl Position.push ⟨1, 1⟩).IsBehind bytes := by
  induction bytes using List.reverseRecOn with
  | nil => exact .onFirst List.not_mem_nil
  | append_singleton bytes b ih =>
    rw [List.foldl_append]
    exact ih.push b

end Position

/-! ## Where lines start -/

/-- The offset at which a line starts, where lines are counted from zero: the bytes of all lines
(`piecesBetween`) before it, each with the byte that ends it. -/
def Text.lineStart (source : Text) (n : Nat) : Nat :=
  (((piecesBetween lineFeed source.bytes).take n).map fun line => line.length + 1).sum

/-- Whether the line of an offset starts at another one, as it is found from the offset back. It
says nothing of the lines before. -/
structure Text.IsLineStart (source : Text) (offset start : Nat) : Prop where
  /-- the line does not start behind the offset -/
  le : start ≤ offset
  /-- it starts with the text or behind a line feed -/
  behind : start = 0 ∨ source.bytes[start - 1]? = some lineFeed
  /-- no line ends between its start and the offset -/
  goesOn : ∀ i, start ≤ i → i < offset → source.bytes[i]? ≠ some lineFeed

namespace Position.IsBehind

variable {p : Position} {source : Text} {bytes rest : List UInt8}

theorem one_le (h : p.IsBehind bytes) : 1 ≤ p.line ∧ 1 ≤ p.column := by
  cases h with
  | onFirst => exact ⟨Nat.le_refl 1, Nat.le_add_left 1 _⟩
  | onLater => exact ⟨Nat.le_add_left 1 _, Nat.le_add_left 1 _⟩

/-- The line counts line feeds, from one on. -/
theorem line_eq (h : p.IsBehind bytes) : p.line = bytes.count lineFeed + 1 := by
  cases h with
  | onFirst hline => rw [List.count_eq_zero.mpr hline]
  | onLater hline =>
    rw [List.count_append, List.count_cons_self, List.count_eq_zero.mpr hline]

/-- **The lines in front of a place and its column** make up the bytes in front of it;
`Text.lineStart` adds up the lines. -/
theorem lineStart_add (h : p.IsBehind bytes) (hsource : source.bytes = bytes ++ rest) :
    source.lineStart (p.line - 1) + (p.column - 1) = bytes.length := by
  unfold Text.lineStart
  rw [hsource]
  cases h with
  | onFirst => simp
  | @onLater before line =>
    have htake : (piecesBetween lineFeed (before ++ lineFeed :: line ++ rest)).take
        (before.count lineFeed + 1) = piecesBetween lineFeed before := by
      rw [List.append_assoc, List.cons_append, piecesBetween_append_cons,
        ← length_piecesBetween, List.take_left]
    simp only [Nat.add_sub_cancel]
    rw [Nat.add_succ_sub_one, htake, sum_length_piecesBetween, List.length_append,
      List.length_cons]
    omega

/-- **A search from the back** finds the line that is counted from the front. -/
theorem isLineStart (h : p.IsBehind bytes) (hsource : source.bytes = bytes ++ rest) :
    source.IsLineStart bytes.length (source.lineStart (p.line - 1)) := by
  have hadd := h.lineStart_add hsource
  cases h with
  | onFirst hline =>
    have hzero : source.lineStart (1 - 1) = 0 := rfl
    rw [hzero]
    refine ⟨Nat.zero_le _, .inl rfl, fun i _ hi hfeed => hline ?_⟩
    rw [hsource, List.getElem?_append_left hi] at hfeed
    exact List.mem_of_getElem? hfeed
  | @onLater before line hline =>
    have hstart : source.lineStart (before.count lineFeed + 2 - 1) = before.length + 1 := by
      rw [List.length_append, List.length_cons] at hadd
      dsimp only at hadd ⊢
      omega
    rw [hstart]
    refine ⟨?_, .inr ?_, fun i hle hi hfeed => hline ?_⟩
    · rw [List.length_append, List.length_cons]
      omega
    · rw [hsource, Nat.add_sub_cancel, List.append_assoc,
        List.getElem?_append_right (Nat.le_refl _), Nat.sub_self]
      rfl
    · rw [hsource, List.getElem?_append_left hi, List.getElem?_append_right (by omega),
        List.getElem?_cons, if_neg (by omega)] at hfeed
      exact List.mem_of_getElem? hfeed

end Position.IsBehind

/-! ## The place of an offset -/

namespace Position

/-- A `Position` as its line and its column, to be compared in this order. -/
def rank (p : Position) : ℕ ×ₗ ℕ := toLex (p.line, p.column)

theorem rank_lt_iff {p q : Position} :
    p.rank < q.rank ↔ p.line < q.line ∨ p.line = q.line ∧ p.column < q.column :=
  Prod.Lex.toLex_lt_toLex

end Position

namespace Text

variable (source : Text)

theorem position_isBehind (offset : Nat) :
    (source.position offset).IsBehind (source.bytes.take offset) := by
  unfold position
  rw [Position.advance_eq_foldl]
  exact Position.isBehind_foldl _

/-- An offset beyond the end has the place of the end, where `advance` stops. -/
theorem position_min (offset : Nat) :
    source.position (min offset source.size) = source.position offset := by
  unfold position
  rw [Position.advance_eq_foldl, Position.advance_eq_foldl, ← length_bytes,
    ← List.take_eq_take_min]

/-- The line and the column add up to the offset, which they therefore determine. -/
theorem lineStart_position {offset : Nat} (h : offset ≤ source.size) :
    source.lineStart ((source.position offset).line - 1) + ((source.position offset).column - 1) =
      offset := by
  have hlength : (source.bytes.take offset).length = offset := by
    rw [List.length_take, length_bytes, Nat.min_eq_left h]
  exact ((source.position_isBehind offset).lineStart_add
    (List.take_append_drop ..).symm).trans hlength

/-- **Places come in the order of their offsets**, up to the end of the text. -/
theorem position_strictMonoOn :
    StrictMonoOn (fun offset => (source.position offset).rank) (Set.Iic source.size) := by
  intro a ha b hb hab
  have hlineA := (source.position_isBehind a).line_eq
  have hlineB := (source.position_isBehind b).line_eq
  have hcount : (source.bytes.take a).count lineFeed ≤ (source.bytes.take b).count lineFeed :=
    ((List.take_prefix_take_left (Nat.le_of_lt hab)).sublist).count_le lineFeed
  refine Position.rank_lt_iff.mpr ?_
  rcases Nat.lt_or_eq_of_le (show (source.position a).line ≤ (source.position b).line by omega) with
    hlt | heq
  · exact .inl hlt
  · -- on one line, the columns are as far apart as the offsets
    have haddA := source.lineStart_position ha
    have haddB := source.lineStart_position hb
    have honeA := (source.position_isBehind a).one_le.2
    rw [heq] at haddA
    exact .inr ⟨heq, by omega⟩

/-- Beyond the end too, places do not go back. -/
theorem position_monotone : Monotone fun offset => (source.position offset).rank := by
  intro a b hab
  have hle : min a source.size ≤ min b source.size := min_le_min_right _ hab
  dsimp only
  rw [← source.position_min a, ← source.position_min b]
  exact source.position_strictMonoOn.monotoneOn (Nat.min_le_right _ _) (Nat.min_le_right _ _) hle

end Text

/-! ## Edits -/

/-- The `Position` at which an edit says that its literal starts. -/
def Edit.position (e : Edit) : Position := ⟨e.line, e.column⟩

/-- **Places are exact.** The place of an offset (`Text.position`), taken up to the end of the text,
has a line that counts the line feeds in front of it, and a column such that the lines in front of
it and the bytes before the column add up to the offset. This is the line that is found from the
offset back (`IsLineStart`), which starts nowhere behind it. Up to the end, no two offsets have the
same place, and a later offset has a later one; beyond the end, all have the last. Along the edits
of a program, wherever its literals stand, places do not go back. -/
theorem Text.position_exact (source : Text) :
    (∀ offset,
      let o := min offset source.size
      let p := source.position offset
      let start := source.lineStart (p.line - 1)
      1 ≤ p.line ∧ 1 ≤ p.column ∧
        p.line - 1 = (source.bytes.take o).count lineFeed ∧
        o = start + (p.column - 1) ∧
        source.IsLineStart o start ∧ p.column = o - start + 1) ∧
    Set.InjOn source.position (Set.Iic source.size) ∧
    StrictMonoOn (fun offset => (source.position offset).rank) (Set.Iic source.size) ∧
    (∀ offset, source.size ≤ offset → source.position offset = source.position source.size) ∧
    ∀ rules program program' edits,
      Program.rewritten rules source program = some (program', edits) →
      edits.Pairwise fun a b => a.position.rank ≤ b.position.rank := by
  refine ⟨fun offset => ?_, ?_, source.position_strictMonoOn, fun offset hend => ?_, ?_⟩
  · intro o p start
    have hp : source.position o = p := source.position_min offset
    have ho : o ≤ source.size := Nat.min_le_right _ _
    have hbehind := source.position_isBehind o
    have hadd := source.lineStart_position ho
    have hlength : (source.bytes.take o).length = o := by
      rw [List.length_take, length_bytes, Nat.min_eq_left ho]
    have hstart := hbehind.isLineStart (List.take_append_drop o source.bytes).symm
    rw [hlength] at hstart
    rw [hp] at hbehind hadd hstart
    obtain ⟨hline, hcolumn⟩ := hbehind.one_le
    refine ⟨hline, hcolumn, ?_, hadd.symm, hstart, ?_⟩
    · rw [hbehind.line_eq, Nat.add_sub_cancel]
    · omega
  · exact Set.InjOn.of_comp (g := Position.rank) source.position_strictMonoOn.injOn
  · rw [← source.position_min offset, Nat.min_eq_right hend]
  · intro rules program program' edits h
    have hplace : ∀ e ∈ edits, e.position = source.position e.span.start := by
      intro e he
      obtain ⟨l, -, n, hof⟩ := Program.exists_literal_of_mem h he
      rw [hof.span]
      exact hof.position
    refine (Program.rewritten_pairwise h).imp_of_mem fun {a b} ha hb hab => ?_
    rw [hplace a ha, hplace b hb]
    exact source.position_monotone hab

/-- An empty line, an offset inside a character and one far beyond the end, and imports on two
lines. -/
theorem Text.position_exact_lines :
    let source : Text := "'é'\n\nimport './b'\nimport '../a'".toList
    ∃ program program' edits, Source.parse .plain source = some program ∧
      program.rewritten .none source = some (program', edits) ∧
      edits.map Edit.position = [⟨3, 8⟩, ⟨4, 8⟩] ∧
      edits.Pairwise (fun a b => a.position.rank ≤ b.position.rank) ∧
      [0, 2, 4, 5, 6].map source.position = [⟨1, 1⟩, ⟨1, 3⟩, ⟨1, 5⟩, ⟨2, 1⟩, ⟨3, 1⟩] ∧
      (2 < 5 ∧ 5 ≤ source.size ∧ (source.position 2).rank < (source.position 5).rank) ∧
      source.size ≤ 2 ^ 64 - 1 ∧ source.position (2 ^ 64 - 1) = source.position source.size := by
  intro source
  have hresult : ((Source.parse .plain source).bind fun program =>
      (program.rewritten .none source).map fun r => r.2.map Edit.position) =
        some [⟨3, 8⟩, ⟨4, 8⟩] := by decide +kernel
  obtain ⟨program, hparse, hresult⟩ := Option.bind_eq_some_iff.mp hresult
  obtain ⟨⟨program', edits⟩, hrewritten, hplaces⟩ := Option.map_eq_some_iff.mp hresult
  obtain ⟨-, -, hordered, hend, hedits⟩ := Text.position_exact source
  have hsize : source.size ≤ 2 ^ 64 - 1 := by decide +kernel
  have htwo : 2 ≤ source.size := by decide +kernel
  have hfive : 5 ≤ source.size := by decide +kernel
  have hlater := hordered htwo hfive (by decide)
  exact ⟨program, program', edits, hparse, hrewritten, hplaces,
    hedits .none program program' edits hrewritten, by decide +kernel,
    ⟨by decide, hfive, hlater⟩, hsize, hend _ hsize⟩

end DotJs
