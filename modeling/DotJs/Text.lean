/-!
# Text and its bytes

Texts are lists of characters, so that everything below recurses on the data.
Offsets, lengths and columns of a file are nevertheless counted in bytes of its
UTF-8 form, because that is what editors and other tools count. Three
operations carry the whole bridge:

* `Text.size` is the number of bytes of a text;
* `Text.cut?` cuts a text at a byte offset, and refuses an offset that falls
  outside the text or inside a character;
* `Text.slice?` is the piece between two offsets, with the same refusals.

Besides, there are the few operations on lists of characters that more than one format
needs. The lemmas say that a cut loses nothing and falls where it was asked to fall.
-/

namespace DotJs

/-- A text: its characters in order. It is a list and no `String`, so that all that is said about
texts is said by recursion on it; what counts bytes goes through `Text.size` and `Text.cut?`. -/
abbrev Text := List Char

/-- The pieces of a list between the places where `x` stands. There is one piece more than there are
`x`, and pieces can be empty: a path has an empty segment between two slashes, and a file an empty
line behind its last line feed. -/
def piecesBetween {α : Type} [DecidableEq α] (x : α) : List α → List (List α)
  | [] => [[]]
  | y :: rest =>
    if y = x then
      [] :: piecesBetween x rest
    else
      match piecesBetween x rest with
      | [] => [[y]]
      | first :: others => (y :: first) :: others

/-- The value of a hexadecimal digit of either case, or `none`. One definition serves the escapes of
source texts, of JSON and of string literals. -/
def hexDigit? (c : Char) : Option Nat :=
  if '0' ≤ c ∧ c ≤ '9' then some (c.toNat - '0'.toNat)
  else if 'a' ≤ c ∧ c ≤ 'f' then some (c.toNat - 'a'.toNat + 10)
  else if 'A' ≤ c ∧ c ≤ 'F' then some (c.toNat - 'A'.toNat + 10)
  else none

/-- The value of an octal digit, or `none`. `8` and `9` are none, so that they end the escape `\1`
and are escapes of their own. -/
def octalDigit? (c : Char) : Option Nat :=
  if '0' ≤ c ∧ c ≤ '7' then some (c.toNat - '0'.toNat) else none

namespace Text

/-- The number of bytes of the UTF-8 form of a text: what a `Span` counts and a `Position` has in
its column. -/
def size : Text → Nat
  | [] => 0
  | c :: t => c.utf8Size + size t

@[simp] theorem size_nil : size [] = 0 := rfl

@[simp] theorem size_cons (c : Char) (t : Text) : size (c :: t) = c.utf8Size + size t := rfl

@[simp] theorem size_append (a b : Text) : size (a ++ b) = size a + size b := by
  induction a with
  | nil => simp
  | cons c a ih => simp [ih, Nat.add_assoc]

/-- Cuts a text `n` bytes from its start. There is no cut beyond the end or inside a character, so
that a result is two texts again (`cut?_eq_some`) and no byte of a character is ever lost. -/
def cut? : Nat → Text → Option (Text × Text)
  | 0, t => some ([], t)
  | _ + 1, [] => none
  | n + 1, c :: t =>
    if c.utf8Size ≤ n + 1 then
      (cut? (n + 1 - c.utf8Size) t).map fun (a, b) => (c :: a, b)
    else
      none

/-- Both halves of a cut together are the text, and the first has the size asked for. With
`cut?_size`, this is all that is used of `cut?`. -/
theorem cut?_eq_some {n : Nat} {t a b : Text} (h : cut? n t = some (a, b)) :
    t = a ++ b ∧ size a = n := by
  fun_induction cut? n t generalizing a b with
  | case1 t => simp_all
  | case2 => simp at h
  | case3 n c t hc ih =>
    obtain ⟨⟨a', b'⟩, h', heq⟩ := Option.map_eq_some_iff.mp h
    obtain ⟨rfl, rfl⟩ := Prod.mk.inj heq
    obtain ⟨rfl, hn⟩ := ih h'
    exact ⟨rfl, by simp [hn]; omega⟩
  | case4 => simp at h

/-- Every boundary between two pieces can be cut at, and the cut gives back the pieces: the converse
of `cut?_eq_some`. -/
theorem cut?_size (a b : Text) : cut? (size a) (a ++ b) = some (a, b) := by
  induction a with
  | nil => simp [cut?]
  | cons c a ih =>
    have hc : 0 < c.utf8Size := c.utf8Size_pos
    have hs : size (c :: a) = (c.utf8Size + size a - 1) + 1 := by simp; omega
    rw [hs, List.cons_append, cut?, if_pos (by omega)]
    have hr : c.utf8Size + size a - 1 + 1 - c.utf8Size = size a := by omega
    rw [hr, ih]
    rfl

/-- The piece of a text from byte `start` to byte `stop`, by two cuts (`cut?`). There is none if the
offsets come in the wrong order, lie outside the text or fall into a character. -/
def slice? (t : Text) (start stop : Nat) : Option Text :=
  if start ≤ stop then
    match cut? start t with
    | none => none
    | some (_, rest) => (cut? (stop - start) rest).map (·.1)
  else
    none

/-- Joins texts with a separator between neighbours, and none before the first or behind the last:
the converse of `piecesBetween` when the separator is a single character. -/
def join (separator : Text) : List Text → Text
  | [] => []
  | [t] => t
  | t :: u :: rest => t ++ separator ++ join separator (u :: rest)

/-- Whether a text stands somewhere in another one, at any place and not only where a component of a
path starts: `Settings.ignores` looks for `node_modules` in this way. -/
def isPartOf (part : Text) : Text → Bool
  | [] => part = []
  | c :: t => part.isPrefixOf (c :: t) || isPartOf part t

/-- The decimal digits of a number, `0` to `9`, without leading zeros, as reports and status lines
print counts. -/
def ofNat (n : Nat) : Text := Nat.toDigits 10 n

end Text

end DotJs
