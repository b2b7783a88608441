import DotJs.Sorting

/-!
# Sorted lists

What `stableSort` and `dropRepeats` lead to, for an order that is total and transitive:

* `stableSort_pairwise`: a sorted list is in order;
* `stableSort_eq_self`: a list that is in order stays as it is;
* `stableSort_eq_of_perm`: where no two elements have the same rank, a sorted list does
  not tell how its elements came;
* `eq_of_mem_iff`: a list that is strictly in order is known by its elements;
* `mem_of_mem_dropRepeats` and `exists_mem_dropRepeats`: dropping repeats adds nothing, and loses
  nothing but repeats;
* `dropRepeats_pairwise`: a list in order whose repeats are dropped is strictly in order.
-/

namespace DotJs

variable {α : Type} {le : α → α → Bool}

theorem mem_insertSorted {x y : α} {l : List α} : y ∈ insertSorted le x l ↔ y = x ∨ y ∈ l := by
  rw [(insertSorted_perm le x l).mem_iff, List.mem_cons]

theorem mem_stableSort {x : α} {l : List α} : x ∈ stableSort le l ↔ x ∈ l :=
  (stableSort_perm le l).mem_iff

theorem insertSorted_pairwise (htotal : ∀ a b, le a b = false → le b a)
    (htrans : ∀ a b c, le a b → le b c → le a c) {x : α} {l : List α}
    (h : l.Pairwise fun a b => le a b) : (insertSorted le x l).Pairwise fun a b => le a b := by
  induction l with
  | nil => exact List.pairwise_singleton _ _
  | cons y rest ih =>
    obtain ⟨hy, hrest⟩ := List.pairwise_cons.mp h
    simp only [insertSorted]
    split
    · next hxy =>
      refine List.pairwise_cons.mpr ⟨fun z hz => ?_, h⟩
      rcases List.mem_cons.mp hz with rfl | hz
      · exact hxy
      · exact htrans x y z hxy (hy z hz)
    · next hxy =>
      refine List.pairwise_cons.mpr ⟨fun z hz => ?_, ih hrest⟩
      rcases mem_insertSorted.mp hz with rfl | hz
      · exact htotal z y (Bool.eq_false_iff.mpr hxy)
      · exact hy z hz

/-- A sorted list is in order. `le` has to be total and transitive but not antisymmetric: edits are
sorted by where they start, and two of them may start at the same byte. -/
theorem stableSort_pairwise (htotal : ∀ a b, le a b = false → le b a)
    (htrans : ∀ a b c, le a b → le b c → le a c) (l : List α) :
    (stableSort le l).Pairwise fun a b => le a b := by
  induction l with
  | nil => exact .nil
  | cons x rest ih => exact insertSorted_pairwise htotal htrans ih

/-- A list that is in order is not changed by `stableSort`, since an element is put behind those of
its own rank. -/
theorem stableSort_eq_self {l : List α} (h : l.Pairwise fun a b => le a b) :
    stableSort le l = l := by
  induction l with
  | nil => rfl
  | cons x rest ih =>
    obtain ⟨hx, hrest⟩ := List.pairwise_cons.mp h
    rw [stableSort, ih hrest]
    cases rest with
    | nil => rfl
    | cons y rest => rw [insertSorted, if_pos (hx y List.mem_cons_self)]

/-- Lists of the same elements are sorted to the same list when no two of their elements have the
same rank (`hanti`). Without `hanti` a stable sort shows how the elements came. -/
theorem stableSort_eq_of_perm (htotal : ∀ a b, le a b = false → le b a)
    (htrans : ∀ a b c, le a b → le b c → le a c) {l l' : List α} (h : l.Perm l')
    (hanti : ∀ a ∈ l, ∀ b ∈ l, le a b → le b a → a = b) : stableSort le l = stableSort le l' := by
  have hperm : (stableSort le l).Perm (stableSort le l') :=
    (stableSort_perm le l).trans (h.trans (stableSort_perm le l').symm)
  refine hperm.eq_of_pairwise ?_ (stableSort_pairwise htotal htrans l)
    (stableSort_pairwise htotal htrans l')
  intro a b ha hb hab hba
  exact hanti a (mem_stableSort.mp ha) b (h.mem_iff.mpr (mem_stableSort.mp hb)) hab hba

/-- Lists that are strictly in order by `cmp` are the same when they have the same elements. Two
discoveries are compared in this way, by what they find. -/
theorem eq_of_mem_iff {cmp : α → α → Ordering} [Std.OrientedCmp cmp] {l l' : List α}
    (hl : l.Pairwise fun a b => cmp a b = .lt) (hl' : l'.Pairwise fun a b => cmp a b = .lt)
    (h : ∀ a, a ∈ l ↔ a ∈ l') : l = l' := by
  have hnodup : ∀ k : List α, k.Pairwise (fun a b => cmp a b = .lt) → k.Nodup := by
    intro k hk
    refine hk.imp fun {a b} hlt heq => ?_
    rw [heq] at hlt
    exact Std.OrientedCmp.not_lt_of_lt hlt hlt
  refine List.Perm.eq_of_pairwise ?_ hl hl' ?_
  · exact fun a b _ _ hab hba => absurd hba (Std.OrientedCmp.not_lt_of_lt hab)
  · exact (List.perm_ext_iff_of_nodup (hnodup l hl) (hnodup l' hl')).mpr h

/-! ## Repeats -/

theorem head?_dropRepeats (same : α → α → Bool) (l : List α) :
    (dropRepeats same l).head? = l.head? := by
  cases l with
  | nil => rfl
  | cons x rest =>
    simp only [dropRepeats]
    split
    · rfl
    · split <;> rfl

/-- `dropRepeats` adds nothing: what is left was in the list before. -/
theorem mem_of_mem_dropRepeats {same : α → α → Bool} {x : α} {l : List α}
    (h : x ∈ dropRepeats same l) : x ∈ l := by
  induction l with
  | nil => exact h
  | cons y rest ih =>
    rw [dropRepeats] at h
    rw [List.mem_cons]
    split at h
    · exact .inl (List.mem_singleton.mp h)
    · next z rest' hdrop =>
      rw [hdrop, List.mem_cons] at ih
      split at h
      · exact (List.mem_cons.mp h).imp_right fun h => ih (.inr h)
      · exact (List.mem_cons.mp h).imp_right fun h => ih (List.mem_cons.mp h)

/-- Every element that `dropRepeats` drops is the same as one that is left, as long as `same` is an
equivalence. -/
theorem exists_mem_dropRepeats {same : α → α → Bool} (hrefl : ∀ a, same a a)
    (hsymm : ∀ a b, same a b → same b a) (htrans : ∀ a b c, same a b → same b c → same a c)
    {x : α} {l : List α} (h : x ∈ l) : ∃ y ∈ dropRepeats same l, same x y := by
  induction l with
  | nil => exact absurd h List.not_mem_nil
  | cons z rest ih =>
    rw [dropRepeats]
    split
    · next hdrop =>
      -- nothing is left of the rest, so there is no rest
      rw [hdrop] at ih
      rcases List.mem_cons.mp h with rfl | h
      · exact ⟨x, List.mem_cons_self, hrefl x⟩
      · obtain ⟨y, hy, -⟩ := ih h
        exact absurd hy List.not_mem_nil
    · next y rest' hdrop =>
      rw [hdrop] at ih
      split
      · next hsame =>
        -- `y` is dropped, and whatever was the same as `y` is the same as `z`
        rcases List.mem_cons.mp h with rfl | h
        · exact ⟨x, List.mem_cons_self, hrefl x⟩
        · obtain ⟨w, hw, hxw⟩ := ih h
          rcases List.mem_cons.mp hw with rfl | hw
          · exact ⟨z, List.mem_cons_self, htrans x w z hxw (hsymm z w hsame)⟩
          · exact ⟨w, List.mem_cons_of_mem z hw, hxw⟩
      · rcases List.mem_cons.mp h with rfl | h
        · exact ⟨x, List.mem_cons_self, hrefl x⟩
        · obtain ⟨w, hw, hxw⟩ := ih h
          exact ⟨w, List.mem_cons_of_mem z hw, hxw⟩

/-- A list in order whose repeats are dropped is strictly in order: of the elements that are left,
none has the same rank as a later one. `dropRepeats` looks only at neighbours, so this needs the
list to be sorted before. -/
theorem dropRepeats_pairwise {same : α → α → Bool} {lt : α → α → Prop}
    (hlt : ∀ a b, le a b → same a b = false → lt a b) (htrans : ∀ a b c, lt a b → lt b c → lt a c)
    (hsame : ∀ a b c, same a b → lt b c → lt a c) {l : List α}
    (h : l.Pairwise fun a b => le a b) : (dropRepeats same l).Pairwise lt := by
  induction l with
  | nil => exact .nil
  | cons x rest ih =>
    obtain ⟨hx, hrest⟩ := List.pairwise_cons.mp h
    have hhead := head?_dropRepeats same rest
    have hkept := ih hrest
    simp only [dropRepeats]
    rcases hdrop : dropRepeats same rest with _ | ⟨y, rest'⟩
    · exact List.pairwise_singleton _ _
    · rw [hdrop] at hhead hkept
      obtain ⟨hy, hrest'⟩ := List.pairwise_cons.mp hkept
      -- the first element that is left is the first of the list, so `x` is not above it
      have hxy : le x y := hx y (List.mem_of_mem_head? hhead.symm)
      by_cases hs : same x y
      · simp only [if_pos hs]
        exact List.pairwise_cons.mpr ⟨fun z hz => hsame x y z hs (hy z hz), hrest'⟩
      · simp only [if_neg hs]
        have hlt' : lt x y := hlt x y hxy (Bool.eq_false_iff.mpr hs)
        refine List.pairwise_cons.mpr ⟨fun z hz => ?_, hkept⟩
        rcases List.mem_cons.mp hz with rfl | hz
        · exact hlt'
        · exact htrans x y z hlt' (hy z hz)

end DotJs
