import DotJs.Extension
import DotJs.Proofs.Patch

/-!
# Last segments

The extension of a path is that of its last segment. `lastSegment` tells which segment that is, and
`IsExtensionOf` which extension a name has, both without a scan.

The same scan can be made over the bytes of a path, from the last one on, without keeping what was
read: a `ByteScan` only knows where the last dot is, where the segment starts and ends, and what was
read last before the dot. It finds the place of the extension, in bytes.

* `Extension.Scan.Stops` tells where a scan stops; both scans are followed by induction on it;
* `Extension.ByteScan.run_bytes`: the scan over bytes is the one over characters, told by offsets;
* `extension_eq_iff_isExtensionOf` puts all of this together.
-/

namespace DotJs

theorem Text.size_reverse (t : Text) : Text.size t.reverse = t.size := by
  induction t with
  | nil => rfl
  | cons c t ih =>
    rw [List.reverse_cons, Text.size_append, ih, Text.size_cons, Text.size_cons, Text.size_nil]
    omega

/-! ## Segments and names -/

/-- The last segment of a path: once the slashes at its end are gone, the characters behind the last
slash that is left. A path of slashes only has an empty one. -/
def lastSegment (path : Text) : Text :=
  ((path.reverse.dropWhile (· = '/')).takeWhile (· ≠ '/')).reverse

/-- The extension of a name: the part from its last dot on, if something stands before this dot and
the name is not `..`. It says what an extension is and not how it is found. -/
inductive IsExtensionOf : Text → Text → Prop
  /-- the name has an extension -/
  | found {stem tail : Text} (hstem : stem ≠ []) (hlast : '.' ∉ tail)
      (hname : stem ++ '.' :: tail ≠ ['.', '.']) : IsExtensionOf (stem ++ '.' :: tail) ('.' :: tail)
  /-- the name has none -/
  | missing {name : Text}
      (h : ∀ stem tail, name = stem ++ '.' :: tail → '.' ∉ tail → stem = [] ∨ name = ['.', '.']) :
      IsExtensionOf name []

/-- The last dot of a name is at one place only. -/
theorem append_dot_inj {stem stem' tail tail' : Text} (hlast : '.' ∉ tail) (hlast' : '.' ∉ tail')
    (h : stem ++ '.' :: tail = stem' ++ '.' :: tail') : stem = stem' ∧ tail = tail' := by
  rcases List.append_eq_append_iff.mp h with ⟨k, hstem, htail⟩ | ⟨k, hstem, htail⟩
  · cases k with
    | nil => exact ⟨by simpa using hstem.symm, (List.cons.inj htail).2⟩
    | cons c k =>
      obtain ⟨-, rfl⟩ := List.cons.inj htail
      exact absurd (List.mem_append_right k List.mem_cons_self) hlast
  · cases k with
    | nil => exact ⟨by simpa using hstem, (List.cons.inj htail).2.symm⟩
    | cons c k =>
      obtain ⟨-, rfl⟩ := List.cons.inj htail
      exact absurd (List.mem_append_right k List.mem_cons_self) hlast'

/-- A name has one extension only, so `IsExtensionOf` is the graph of a function. -/
theorem IsExtensionOf.unique {name e e' : Text} (h : IsExtensionOf name e)
    (h' : IsExtensionOf name e') : e = e' := by
  cases h with
  | @found stem tail hstem hlast hname =>
    generalize hn : stem ++ '.' :: tail = name at h' hname
    cases h' with
    | found _ hlast' _ => rw [(append_dot_inj hlast hlast' hn).2]
    | missing hnone => exact ((hnone _ _ hn.symm hlast).elim hstem hname).elim
  | missing hnone =>
    cases h' with
    | found hstem hlast hname => exact ((hnone _ _ rfl hlast).elim hstem hname).elim
    | missing _ => rfl

/-- A path that ends with a name and slashes has this name as its last segment (`lastSegment`). -/
theorem lastSegment_eq {path slashes seg left : Text} (h : path.reverse = slashes ++ (seg ++ left))
    (hslashes : ∀ c ∈ slashes, c = '/') (hseg : '/' ∉ seg)
    (hleft : left = [] ∨ left.head? = some '/') (hnone : seg = [] → left = []) :
    lastSegment path = seg.reverse := by
  have hplain : ∀ c ∈ seg, c ≠ '/' := fun c hc heq => hseg (heq ▸ hc)
  have htake : (seg ++ left).takeWhile (· ≠ '/') = seg := by
    rw [List.takeWhile_append_of_pos (by simpa using hplain)]
    rcases hleft with rfl | hhead
    · simp
    · cases left with
      | nil => cases hhead
      | cons c left => simp [Option.some.inj hhead]
  have hdrop : (seg ++ left).dropWhile (· = '/') = seg ++ left := by
    cases seg with
    | nil => rw [hnone rfl]; rfl
    | cons c seg => simp [hplain c List.mem_cons_self]
  rw [lastSegment, h, List.dropWhile_append_of_pos (by simpa using hslashes), hdrop, htake]

namespace Extension

/-! ## Where a scan stops -/

namespace Scan

/-- A `Scan` of a reversed path stops with a result and the part that it did not read: at the slash
before the segment, or at the end. The part that is left tells where the segment starts. -/
inductive Stops : Scan → Text → Scan → Text → Prop
  /-- everything was read -/
  | atEnd {s : Scan} : Stops s [] s []
  /-- the slash before the segment -/
  | atSlash {s : Scan} {rest : Text} (h : s ≠ .slashes) : Stops s ('/' :: rest) s ('/' :: rest)
  /-- a slash at the end of the path -/
  | slash {s : Scan} {rest left : Text} (h : Stops .slashes rest s left) :
      Stops .slashes ('/' :: rest) s left
  /-- a character of the segment -/
  | char {s s' : Scan} {c : Char} {rest left : Text} (hc : c ≠ '/')
      (h : Stops (s.push c) rest s' left) : Stops s (c :: rest) s' left

/-- Every scan stops with its result, so what is proved by induction on `Stops` holds of
`Scan.run`. -/
theorem exists_stops (s : Scan) (todo : Text) : ∃ left, Stops s todo (s.run todo) left := by
  induction todo generalizing s with
  | nil => exact ⟨[], .atEnd⟩
  | cons c rest ih =>
    by_cases hc : c = '/'
    · subst hc
      cases s with
      | slashes =>
        obtain ⟨left, h⟩ := ih .slashes
        exact ⟨left, .slash h⟩
      | plain read => exact ⟨_, .atSlash (by simp)⟩
      | dotted extension before => exact ⟨_, .atSlash (by simp)⟩
    · obtain ⟨left, h⟩ := ih (s.push c)
      have hrun : s.run (c :: rest) = (s.push c).run rest := by
        cases s <;> simp [run, hc]
      exact ⟨left, hrun ▸ .char hc h⟩

/-- What a `Scan` has read of the segment, put together from what it keeps apart. -/
def read : Scan → Text
  | .slashes => []
  | .plain read => read
  | .dotted extension before => before ++ extension

/-- Whether a scan keeps what its names say: no dot in a `plain` one, and the last dot in front of a
`dotted` one. -/
def IsSound : Scan → Prop
  | .slashes => True
  | .plain read => read ≠ [] ∧ '.' ∉ read
  | .dotted extension _ => ∃ tail, extension = '.' :: tail ∧ '.' ∉ tail

theorem read_push (s : Scan) (c : Char) : (s.push c).read = c :: s.read := by
  cases s with
  | slashes | plain => by_cases hc : c = '.' <;> simp [push, read, hc]
  | dotted => rfl

theorem IsSound.push {s : Scan} (h : s.IsSound) (c : Char) : (s.push c).IsSound := by
  cases s with
  | slashes =>
    by_cases hc : c = '.'
    · simp [Scan.push, IsSound, hc]
    · simp [Scan.push, IsSound, hc, Ne.symm hc]
  | plain read =>
    by_cases hc : c = '.'
    · simpa [Scan.push, IsSound, hc] using h.2
    · simpa [Scan.push, IsSound, hc, Ne.symm hc] using h.2
  | dotted extension before => exact h

theorem push_ne_slashes (s : Scan) (c : Char) : s.push c ≠ .slashes := by
  cases s with
  | slashes | plain => by_cases hc : c = '.' <;> simp [push, hc]
  | dotted => simp [push]

theorem IsSound.eq_slashes {s : Scan} (h : s.IsSound) (hread : s.read = []) : s = .slashes := by
  cases s with
  | slashes => rfl
  | plain read => exact absurd hread h.1
  | dotted extension before =>
    obtain ⟨tail, rfl, -⟩ := h
    simp [read] at hread

namespace Stops

variable {s s' : Scan} {todo left : Text}

theorem isSound (h : Stops s todo s' left) (hs : s.IsSound) : s'.IsSound := by
  induction h with
  | atEnd | atSlash => exact hs
  | slash _ ih => exact ih trivial
  | char _ _ ih => exact ih (hs.push _)

/-- A scan stops at a slash or at the end. -/
theorem left_eq_nil_or (h : Stops s todo s' left) : left = [] ∨ left.head? = some '/' := by
  induction h with
  | atEnd => exact .inl rfl
  | atSlash => exact .inr rfl
  | slash _ ih | char _ _ ih => exact ih

/-- A scan that has found `slashes` only has read everything. -/
theorem left_eq_nil (h : Stops s todo s' left) (hs' : s' = .slashes) : left = [] := by
  induction h with
  | atEnd => rfl
  | atSlash h => exact absurd hs' h
  | slash _ ih | char _ _ ih => exact ih hs'

/-- A scan has read slashes and the segment, the slashes only if it came to them before any other
character. -/
theorem exists_append (h : Stops s todo s' left) :
    ∃ slashes seg, todo = slashes ++ (seg ++ left) ∧ (∀ c ∈ slashes, c = '/') ∧ '/' ∉ seg ∧
      (s ≠ .slashes → slashes = []) ∧ s'.read = seg.reverse ++ s.read := by
  induction h with
  | atEnd | atSlash => exact ⟨[], [], rfl, by simp, by simp, fun _ => rfl, rfl⟩
  | slash _ ih =>
    obtain ⟨slashes, seg, rfl, hslashes, hseg, -, hread⟩ := ih
    exact ⟨'/' :: slashes, seg, rfl, by simpa using hslashes, hseg, fun h => absurd rfl h, hread⟩
  | @char s _ c _ _ hc _ ih =>
    obtain ⟨slashes, seg, rfl, -, hseg, hnone, hread⟩ := ih
    rw [hnone (s.push_ne_slashes c)]
    refine ⟨[], c :: seg, rfl, by simp, ?_, fun _ => rfl, ?_⟩
    · simpa [Ne.symm hc] using hseg
    · simpa [read_push] using hread

end Stops

/-- The `result` of a scan is the extension of what it has read. -/
theorem IsSound.isExtensionOf {s : Scan} (h : s.IsSound) : IsExtensionOf s.read s.result := by
  cases s with
  | slashes => exact .missing fun stem tail hname => by simp [read] at hname
  | plain read =>
    refine .missing fun stem tail hname => absurd ?_ h.2
    change read = _ at hname
    simp [hname]
  | dotted extension before =>
    obtain ⟨tail, rfl, hlast⟩ := h
    have hdots : before = ['.'] ∧ '.' :: tail = ['.'] ↔ before ++ '.' :: tail = ['.', '.'] := by
      constructor
      · rintro ⟨rfl, htail⟩
        rw [htail]
        rfl
      · intro hname
        have hdot : before ++ '.' :: tail = ['.'] ++ '.' :: [] := hname
        obtain ⟨hbefore, htail⟩ := append_dot_inj hlast List.not_mem_nil hdot
        exact ⟨hbefore, by rw [htail]⟩
    rw [result]
    split
    · next hnone =>
      rw [hdots] at hnone
      refine .missing fun stem tail' hname hlast' => ?_
      rwa [← (append_dot_inj hlast hlast' hname).1]
    · next hfound =>
      rw [hdots, not_or] at hfound
      exact .found hfound.1 hlast hfound.2

end Scan

/-! ## The scan over bytes -/

/-- What stands before the last dot of a segment, as far as it was read. This much a scan over bytes
needs to know to tell `..` and leading dots. -/
inductive BeforeDot where
  /-- nothing -/
  | nothing
  /-- a dot, and what is behind it -/
  | dot
  /-- another byte, and what is behind it -/
  | other
  deriving DecidableEq, Repr

/-- What a reader who goes through the bytes of a path from the last one on keeps: offsets, and none
of the bytes, which `Scan` keeps as characters. -/
structure ByteScan where
  /-- the offset of the last dot of the segment -/
  dot : Option Nat
  /-- the offset at which the segment starts; zero until that is known -/
  segment : Nat
  /-- the offset behind the segment -/
  stop : Option Nat
  /-- whether there were only slashes -/
  onlySlashes : Bool
  /-- what stands before the last dot -/
  beforeDot : BeforeDot
  deriving DecidableEq, Repr

namespace ByteScan

/-- Nothing read so far (`ByteScan`), as before the last byte of the path. -/
def start : ByteScan := ⟨none, 0, none, true, .nothing⟩

/-- A byte that is part of the segment makes it start, if it is the first one. It is the last of its
segment, since the path is read backwards. -/
def enter (s : ByteScan) (offset : Nat) : ByteScan :=
  if s.stop = none then { s with stop := some (offset + 1), onlySlashes := false } else s

/-- One more byte of the segment, which may `enter` it. A byte of a longer character is never that
of a dot. -/
def push (s : ByteScan) (offset : Nat) (b : UInt8) : ByteScan :=
  let s := s.enter offset
  if b = '.'.toUInt8 then
    if s.dot = none then { s with dot := some offset } else { s with beforeDot := .dot }
  else if s.dot = none then s
  else { s with beforeDot := .other }

/-- Reads reversed bytes up to the slash before the last segment. The offset of a byte is the number
of those that are left. -/
def run : ByteScan → List UInt8 → ByteScan
  | s, [] => s
  | s, b :: rest =>
    if b = '/'.toUInt8 then
      if s.onlySlashes then run s rest else { s with segment := rest.length + 1 }
    else
      run (s.push rest.length b) rest

/-- The place of the extension that a finished scan has found. There is none for a leading dot and
for the name `..`. -/
def result? (s : ByteScan) : Option Span :=
  match s.dot, s.stop with
  | some dot, some stop =>
    if s.beforeDot = .nothing ∨ (s.beforeDot = .dot ∧ dot + 1 = stop ∧ dot = s.segment + 1) then
      none
    else some ⟨dot, stop⟩
  | _, _ => none

end ByteScan

/-- The extension of a path, cut out where the scan over its bytes (`ByteScan.run`) has found it.
There is none if the place that was found is not a piece of the path, from one character to
another. -/
def cut? (path : Text) : Option Text :=
  match (ByteScan.start.run (path.flatMap String.utf8EncodeChar).reverse).result? with
  | none => some []
  | some place => path.slice? place.start place.stop

/-! ## Bytes and characters -/

/-- The bytes (`String.utf8EncodeChar`) of a reversed text, from the last byte of its first
character on. -/
def reversedBytes (reversed : Text) : List UInt8 :=
  reversed.flatMap fun c => (String.utf8EncodeChar c).reverse

theorem reverse_flatMap_utf8EncodeChar (path : Text) :
    (path.flatMap String.utf8EncodeChar).reverse = reversedBytes path.reverse := by
  rw [reversedBytes, List.reverse_flatMap]
  rfl

theorem length_reversedBytes (reversed : Text) :
    (reversedBytes reversed).length = reversed.size := by
  induction reversed with
  | nil => rfl
  | cons c rest ih =>
    rw [reversedBytes, List.flatMap_cons, List.length_append, List.length_reverse,
      String.length_utf8EncodeChar, Text.size_cons]
    exact congrArg _ ih

/-- A byte of a character is either the whole character or none of ASCII, so bytes of a slash or a
dot are not found in other characters. -/
theorem toNat_of_mem_utf8EncodeChar {c : Char} :
    ∀ b ∈ String.utf8EncodeChar c, b.toNat = c.toNat ∨ 0x80 ≤ b.toNat := by
  have hlow : c.toNat ≤ 0x7f → (UInt8.ofNat c.toNat).toNat = c.toNat := by
    intro hc
    rw [UInt8.toNat_ofNat', Nat.mod_eq_of_lt (by omega)]
  have hhigh : ∀ {n}, 0x80 ≤ n → n < 0x100 → 0x80 ≤ (UInt8.ofNat n).toNat := by
    intro n hle hlt
    rwa [UInt8.toNat_ofNat', Nat.mod_eq_of_lt hlt]
  have hval : c.val.toNat = c.toNat := rfl
  simp only [String.utf8EncodeChar, hval]
  -- one case for each number of bytes
  split
  · next hc => exact List.forall_mem_singleton.mpr (.inl (hlow hc))
  · split
    · simp only [List.forall_mem_cons]
      exact ⟨.inr (hhigh (by omega) (by omega)), .inr (hhigh (by omega) (by omega)), by simp⟩
    · split
      · simp only [List.forall_mem_cons]
        exact ⟨.inr (hhigh (by omega) (by omega)), .inr (hhigh (by omega) (by omega)),
          .inr (hhigh (by omega) (by omega)), by simp⟩
      · simp only [List.forall_mem_cons]
        exact ⟨.inr (hhigh (by omega) (by omega)), .inr (hhigh (by omega) (by omega)),
          .inr (hhigh (by omega) (by omega)), .inr (hhigh (by omega) (by omega)), by simp⟩

/-- Whether a byte belongs to neither a slash nor a dot. -/
def IsPlain (b : UInt8) : Prop := b ≠ '/'.toUInt8 ∧ b ≠ '.'.toUInt8

theorem isPlain_of_mem_utf8EncodeChar {c : Char} (hslash : c ≠ '/') (hdot : c ≠ '.') {b : UInt8}
    (hb : b ∈ String.utf8EncodeChar c) : IsPlain b := by
  have hbyte := toNat_of_mem_utf8EncodeChar b hb
  have hne : ∀ d : Char, d.toUInt8.toNat = d.toNat → d.toNat < 0x80 → c ≠ d → b ≠ d.toUInt8 := by
    rintro d hd hlt hc rfl
    rw [hd] at hbyte
    rcases hbyte with heq | hle
    · exact hc (Char.toNat_inj.mp heq.symm)
    · omega
  exact ⟨hne '/' rfl (by decide) hslash, hne '.' rfl (by decide) hdot⟩

/-- What stands before the last dot, when these characters do, in the terms of a `ByteScan`. -/
def BeforeDot.of : Text → BeforeDot
  | [] => .nothing
  | c :: _ => if c = '.' then .dot else .other

namespace ByteScan

variable {s : ByteScan} {offset : Nat} {rest : List UInt8}

/-- What a scan over bytes keeps of one over characters that has come to an offset. It relates the
two scans in `run_bytes`. -/
def ofScan (offset : Nat) : Scan → ByteScan
  | .slashes => start
  | .plain read => ⟨none, 0, some (offset + read.size), false, .nothing⟩
  | .dotted extension before =>
    ⟨some (offset + before.size), 0, some (offset + before.size + extension.size), false,
      .of before⟩

/-- One more byte of a character that is no dot: `push` without its test. -/
def pushPlain (s : ByteScan) (offset : Nat) : ByteScan :=
  let s := s.enter offset
  if s.dot = none then s else { s with beforeDot := .other }

theorem push_eq_pushPlain {b : UInt8} (h : IsPlain b) : s.push offset b = s.pushPlain offset := by
  simp only [push, pushPlain, if_neg h.2]

/-- Further bytes of the same character tell nothing new. -/
theorem pushPlain_pushPlain (s : ByteScan) (offset offset' : Nat) :
    (s.pushPlain offset).pushPlain offset' = s.pushPlain offset := by
  obtain ⟨dot, segment, stop, onlySlashes, beforeDot⟩ := s
  cases dot <;> cases stop <;> simp [pushPlain, enter]

/-- A character that is neither a slash nor a dot is read as one plain byte (`pushPlain`). -/
theorem run_plain {b : UInt8} {bytes : List UInt8} (h : ∀ b' ∈ b :: bytes, IsPlain b') :
    s.run (b :: (bytes ++ rest)) = (s.pushPlain (bytes.length + rest.length)).run rest := by
  induction bytes generalizing s b with
  | nil =>
    have hb := h b List.mem_cons_self
    rw [List.nil_append, run, if_neg hb.1, push_eq_pushPlain hb, List.length_nil, Nat.zero_add]
  | cons b' bytes ih =>
    have hb := h b List.mem_cons_self
    rw [run, if_neg hb.1, push_eq_pushPlain hb, List.cons_append,
      ih fun b'' hb'' => h b'' (List.mem_cons_of_mem b hb''), pushPlain_pushPlain,
      List.length_cons, List.length_append, List.length_cons, Nat.add_right_comm]

/-- The bytes of a character of the segment lead where the character leads: this is the step of
`run_bytes`. -/
theorem run_char (s : Scan) {c : Char} (hc : c ≠ '/') (hrest : rest.length = offset) :
    (ofScan (c.utf8Size + offset) s).run ((String.utf8EncodeChar c).reverse ++ rest) =
      (ofScan offset (s.push c)).run rest := by
  subst hrest
  by_cases hdot : c = '.'
  · subst hdot
    have hbytes : (String.utf8EncodeChar '.').reverse ++ rest = '.'.toUInt8 :: rest := rfl
    have hsize : '.'.utf8Size = 1 := rfl
    rw [hbytes, hsize, run, if_neg (by decide)]
    congr 1
    cases s <;> simp [ofScan, start, push, enter, Scan.push, BeforeDot.of, hsize] <;> omega
  · obtain ⟨b, bytes, hbytes⟩ : ∃ b bytes, (String.utf8EncodeChar c).reverse = b :: bytes :=
      List.exists_cons_of_ne_nil (by simp [String.utf8EncodeChar_ne_nil])
    have hlength : c.utf8Size = bytes.length + 1 := by
      rw [← String.length_utf8EncodeChar, ← List.length_reverse, hbytes, List.length_cons]
    have hplain : ∀ b' ∈ b :: bytes, IsPlain b' := by
      rw [← hbytes]
      exact fun b' hb' => isPlain_of_mem_utf8EncodeChar hc hdot (List.mem_reverse.mp hb')
    rw [hbytes, List.cons_append, run_plain hplain]
    congr 1
    cases s <;> simp [ofScan, start, pushPlain, enter, Scan.push, BeforeDot.of, hdot, hlength] <;>
      omega

/-- **The scan over bytes is the one over characters, told by offsets.** It stops at the same place
(`Stops`), and this is where the segment starts. -/
theorem run_bytes {s s' : Scan} {todo left : Text} (h : s.Stops todo s' left) :
    (ofScan todo.size s).run (reversedBytes todo) =
      { ofScan left.size s' with segment := left.size } := by
  induction h with
  | @atEnd s => cases s <;> rfl
  | @atSlash s rest hs =>
    have hbytes : reversedBytes ('/' :: rest) = '/'.toUInt8 :: reversedBytes rest := rfl
    have hsize : '/'.utf8Size = 1 := rfl
    have hslashes : (ofScan (Text.size ('/' :: rest)) s).onlySlashes = false := by
      cases s with
      | slashes => exact absurd rfl hs
      | plain | dotted => rfl
    rw [hbytes, run, if_pos rfl, if_neg (Bool.eq_false_iff.mp hslashes),
      length_reversedBytes, Text.size_cons, hsize, Nat.add_comm 1]
  | slash h ih => exact ih
  | @char s s' c rest left hc h ih =>
    have hbytes : reversedBytes (c :: rest) =
        (String.utf8EncodeChar c).reverse ++ reversedBytes rest := rfl
    rw [hbytes, Text.size_cons, run_char s hc (length_reversedBytes rest), ih]

/-- What is tested of bytes and offsets is what is tested of characters: a dot has one byte. -/
theorem beforeDot_iff (offset : Nat) (before tail : Text) :
    (BeforeDot.of before = .nothing ∨ (BeforeDot.of before = .dot ∧
        offset + before.size + 1 = offset + before.size + Text.size ('.' :: tail) ∧
        offset + before.size = offset + 1)) ↔
      before = [] ∨ (before = ['.'] ∧ '.' :: tail = ['.']) := by
  have hsize : '.'.utf8Size = 1 := rfl
  cases before with
  | nil => simp [BeforeDot.of]
  | cons c before =>
    by_cases hc : c = '.'
    · simp [BeforeDot.of, hc, hsize, Text.size_eq_zero, and_comm]
    · simp [BeforeDot.of, hc]

/-- The place that is found by `result?` is that of the result, behind the rest of what the scan has
read. -/
theorem result?_ofScan {s : Scan} (h : s.IsSound) (offset : Nat) :
    match { ofScan offset s with segment := offset }.result? with
    | none => s.result = []
    | some place => ∃ before, s.read = before ++ s.result ∧ place.start = offset + before.size ∧
        place.stop = place.start + s.result.size := by
  cases s with
  | slashes | plain => rfl
  | dotted extension before =>
    obtain ⟨tail, rfl, -⟩ := h
    have hnone := beforeDot_iff offset before tail
    by_cases hbefore : before = [] ∨ (before = ['.'] ∧ '.' :: tail = ['.'])
    · have hplace : { ofScan offset (.dotted ('.' :: tail) before) with
          segment := offset }.result? = none := if_pos (hnone.mpr hbefore)
      rw [hplace]
      exact if_pos hbefore
    · have hplace : { ofScan offset (.dotted ('.' :: tail) before) with
          segment := offset }.result? = some ⟨offset + before.size,
            offset + before.size + Text.size ('.' :: tail)⟩ := if_neg (mt hnone.mp hbefore)
      have hresult : (Scan.dotted ('.' :: tail) before).result = '.' :: tail := if_neg hbefore
      rw [hplace, hresult]
      exact ⟨before, rfl, rfl, rfl⟩

end ByteScan

end Extension

/-- **The extension of a path is that of its last segment**, as `lastSegment` and `IsExtensionOf`
tell them. And the scan over the bytes of the path (`Extension.cut?`) ends with two places that lie
in it and between characters, with the extension between them. -/
theorem extension_eq_iff_isExtensionOf (path : Text) :
    (∀ e, extension path = e ↔ IsExtensionOf (lastSegment path) e) ∧
      Extension.cut? path = some (extension path) := by
  obtain ⟨left, hstops⟩ := Extension.Scan.exists_stops .slashes path.reverse
  obtain ⟨slashes, seg, hpath, hslashes, hseg, -, hread⟩ := hstops.exists_append
  have hsound := hstops.isSound trivial
  have hread : (Extension.Scan.slashes.run path.reverse).read = seg.reverse := by
    rw [hread]
    exact List.append_nil _
  have hname : lastSegment path = (Extension.Scan.slashes.run path.reverse).read := by
    rw [hread]
    refine lastSegment_eq hpath hslashes hseg hstops.left_eq_nil_or fun hnil => ?_
    exact hstops.left_eq_nil (hsound.eq_slashes (by rw [hread, hnil]; rfl))
  constructor
  · intro e
    rw [hname]
    constructor
    · rintro rfl
      exact hsound.isExtensionOf
    · exact hsound.isExtensionOf.unique
  · have hrun := Extension.ByteScan.run_bytes hstops
    have hplace := Extension.ByteScan.result?_ofScan hsound left.size
    rw [Extension.cut?, Extension.reverse_flatMap_utf8EncodeChar]
    have hstart : Extension.ByteScan.ofScan (Text.size path.reverse) .slashes = .start := rfl
    rw [← hstart, hrun]
    split
    · next hnone =>
      rw [hnone] at hplace
      exact congrArg some hplace.symm
    · next place hsome =>
      rw [hsome] at hplace
      obtain ⟨before, hbefore, hstart, hstop⟩ := hplace
      refine Text.slice?_eq_some_iff.mpr
        ⟨left.reverse ++ before, slashes.reverse, ?_, ?_, hstop.symm⟩
      · rw [← List.append_assoc, List.append_assoc _ before, extension, ← hbefore, hread,
          ← List.reverse_reverse path, hpath]
        simp
      · rw [hstart, Text.size_append, Text.size_reverse]

end DotJs
