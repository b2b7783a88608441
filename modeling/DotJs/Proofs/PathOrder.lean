import DotJs.FilePath
import DotJs.Proofs.SortedLists

/-!
# The order of paths

Paths are compared by their components, and components by kind and name. Both comparisons are
lexicographic, and so the order of paths is that of lists: it is total and transitive, and of
two paths none is before the other just when they have the same components.

* `Component.compare_eq_compare_key` and `FilePath.compareComponents_eq_compareLex` say that the
  comparisons are the lexicographic ones;
* `FilePath.listed_pairwise`: paths that are sorted and cleared of repeats are strictly in
  order.
-/

namespace DotJs

/-! ## Components -/

/-- Texts are compared by the numbers of their characters, so that the order of lists of numbers can
be used. -/
theorem Text.compare_eq_compare_map (s t : Text) :
    Text.compare s t = Ord.compare (s.map Char.toNat) (t.map Char.toNat) := by
  induction s generalizing t with
  | nil =>
    cases t with
    | nil => rfl
    | cons d t => rfl
  | cons c s ih =>
    cases t with
    | nil => rfl
    | cons d t =>
      -- both sides look at the first characters, and at the rest if these agree
      rw [List.map_cons, List.map_cons, List.compare_cons_cons, Text.compare, ih]
      rcases Nat.lt_trichotomy c.toNat d.toNat with h | h | h
      · rw [if_pos h, Nat.compare_eq_lt.mpr h]
        rfl
      · rw [if_neg (Nat.not_lt.mpr (Nat.le_of_eq h.symm)),
          if_neg (Nat.not_lt.mpr (Nat.le_of_eq h)), Nat.compare_eq_eq.mpr h]
        rfl
      · rw [if_neg (Nat.not_lt.mpr (Nat.le_of_lt h)), if_pos h, Nat.compare_eq_gt.mpr h]
        rfl

namespace Component

/-- The numbers by which a component is compared: that of its kind (`rank`), then those of its name.
Only a name has a text, and its rank is the highest. -/
def key : Component → List Nat
  | .name text => 3 :: text.map Char.toNat
  | c => [c.rank]

theorem key_injective {a b : Component} (h : a.key = b.key) : a = b := by
  -- the first number tells names from the rest, and the rest from each other
  cases a with
  | name s =>
    cases b with
    | name t =>
      have hmap := (List.cons.inj h).2
      rw [(List.map_inj_right fun _ _ => Char.toNat_inj.mp).mp hmap]
    | _ => cases h
  | _ =>
    cases b with
    | name t => cases h
    | _ => first | rfl | cases h

/-- Components are compared by their numbers (`key`), from which the order gets its laws. -/
theorem compare_eq_compare_key (a b : Component) : a.compare b = Ord.compare a.key b.key := by
  cases a with
  | name s =>
    cases b with
    | name t =>
      rw [key, key, List.compare_cons_cons, Nat.compare_eq_eq.mpr rfl]
      exact Text.compare_eq_compare_map s t
    | _ => rfl
  | _ => cases b <;> rfl

instance : Std.TransCmp Component.compare where
  eq_swap {a b} := by
    rw [compare_eq_compare_key, compare_eq_compare_key]
    exact Std.OrientedCmp.eq_swap
  isLE_trans {a b c} hab hbc := by
    rw [compare_eq_compare_key] at *
    exact Std.TransCmp.isLE_trans hab hbc

instance : Std.LawfulEqCmp Component.compare where
  compare_self {a} := by
    rw [compare_eq_compare_key]
    exact Std.ReflCmp.compare_self
  eq_of_compare {a b} h := by
    rw [compare_eq_compare_key] at h
    exact key_injective (Std.LawfulEqCmp.eq_of_compare h)

end Component

/-! ## Paths -/

namespace FilePath

/-- Components are compared one after the other, as `List.compareLex` does it. -/
theorem compareComponents_eq_compareLex (s t : List Component) :
    compareComponents s t = List.compareLex Component.compare s t := by
  induction s generalizing t with
  | nil =>
    cases t with
    | nil => rfl
    | cons b t => rfl
  | cons a s ih =>
    cases t with
    | nil => rfl
    | cons b t =>
      rw [compareComponents, List.compareLex_cons_cons, ih]
      cases a.compare b <;> rfl

instance : Std.TransCmp FilePath.compare where
  eq_swap {a b} := by
    simp only [compare]
    rw [compareComponents_eq_compareLex, compareComponents_eq_compareLex]
    exact Std.OrientedCmp.eq_swap
  isLE_trans {a b c} hab hbc := by
    simp only [compare] at *
    rw [compareComponents_eq_compareLex] at *
    exact Std.TransCmp.isLE_trans hab hbc

/-- Of two paths none is before the other just when they are the `same`, that is, have the same
components. -/
theorem compare_eq_eq_iff {a b : FilePath} : compare a b = .eq ↔ same a b := by
  simp only [compare, same]
  rw [compareComponents_eq_compareLex, Std.LawfulEqCmp.compare_eq_iff_eq, beq_iff_eq]

theorem le_iff_isLE {a b : FilePath} : le a b ↔ (compare a b).isLE := by
  simp only [le]
  cases compare a b <;> decide

theorem le_total (a b : FilePath) (h : le a b = false) : le b a := by
  have hswap : compare b a = (compare a b).swap := Std.OrientedCmp.eq_swap
  rw [le_iff_isLE, hswap]
  simp only [le] at h
  revert h
  cases compare a b <;> decide

theorem le_trans (a b c : FilePath) (hab : le a b) (hbc : le b c) : le a c :=
  le_iff_isLE.mpr (Std.TransCmp.isLE_trans (le_iff_isLE.mp hab) (le_iff_isLE.mp hbc))

/-- A path that comes before another one or is the same, but is not the same, comes strictly before
it. -/
theorem lt_of_le_of_not_same (a b : FilePath) (hab : le a b) (hsame : same a b = false) :
    compare a b = .lt := by
  have hne : compare a b ≠ .eq := fun heq => by
    rw [compare_eq_eq_iff.mp heq] at hsame
    cases hsame
  have hisLE := le_iff_isLE.mp hab
  revert hne hisLE
  cases compare a b <;> decide

/-- Paths that are sorted and cleared of repeats are strictly in order. This is how `discover` lists
what it has found. -/
theorem listed_pairwise (files : List FilePath) :
    (dropRepeats same (stableSort le files)).Pairwise fun a b => compare a b = .lt :=
  dropRepeats_pairwise lt_of_le_of_not_same (fun _ _ _ => Std.TransCmp.lt_trans)
    (fun _ _ _ hab hbc => Std.TransCmp.lt_of_eq_of_lt (compare_eq_eq_iff.mpr hab) hbc)
    (stableSort_pairwise le_total le_trans files)

end FilePath

end DotJs
