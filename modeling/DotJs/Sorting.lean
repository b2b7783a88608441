/-!
# Stable sorting

Edits and files are reported in order. The lists come nearly sorted, so that
insertion from the right end, which keeps equal elements in their order, is both
the plainest and a quick way.
-/

namespace DotJs

/-- Puts an element before the first one that is not below it by `le`, which is where it belongs in
a list that is sorted already. -/
def insertSorted {α : Type} (le : α → α → Bool) (x : α) : List α → List α
  | [] => [x]
  | y :: rest => if le x y then x :: y :: rest else y :: insertSorted le x rest

/-- Sorts a list by insertion (`insertSorted`) from its right end. Elements of equal rank keep their
order, which shows in reports: two edits can start at the same offset, and two paths with the same
components can differ as texts. -/
def stableSort {α : Type} (le : α → α → Bool) : List α → List α
  | [] => []
  | x :: rest => insertSorted le x (stableSort le rest)

/-- Keeps of neighbours that `same` holds of only the first. Only neighbours are compared, so that
all repetitions go only when `stableSort` has brought them together, and only those that `same`
sees: two paths to one file can both stay. -/
def dropRepeats {α : Type} (same : α → α → Bool) : List α → List α
  | [] => []
  | x :: rest =>
    match dropRepeats same rest with
    | [] => [x]
    | y :: rest' => if same x y then x :: rest' else x :: y :: rest'

theorem insertSorted_perm {α : Type} (le : α → α → Bool) (x : α) (l : List α) :
    (insertSorted le x l).Perm (x :: l) := by
  induction l with
  | nil => exact .refl _
  | cons y rest ih =>
    unfold insertSorted
    split
    · exact .refl _
    · exact (ih.cons y).trans (.swap x y rest)

/-- Sorting neither loses nor adds elements, whatever `le` is: an order is needed for where they
stand, not for which they are. -/
theorem stableSort_perm {α : Type} (le : α → α → Bool) (l : List α) :
    (stableSort le l).Perm l := by
  induction l with
  | nil => exact .refl _
  | cons x rest ih => exact (insertSorted_perm le x _).trans (ih.cons x)

end DotJs
