import DotJs.Report
import DotJs.Proofs.FoundFiles

/-!
# Paths as they are printed

A report prints the path of a file as it is seen from the root of the project. What is taken off and
what is trimmed are texts, but it is the components of the path that say how much: the printed text
has the components that are left.

* `FilePath.Uncounted` says what can be trimmed, and `FilePath.components_trimmedEnd` that trimming
  keeps all components;
* `FilePath.components_dropComponents` says which components are left when some are taken off;
* `FilePath.opening?_dropComponents`: behind a directory, what is printed does not open a path, and
  can be joined to it again;
* `Discovery.LiesIn` says of a file that it is below the root or that its path is absolute, which
  all files that are found do.

`displayPath_unambiguous` puts this together.
-/

namespace DotJs

namespace FilePath

variable {directory path t : FilePath}

/-! ## Components behind the one that opens a path -/

theorem counted_slash (t : Text) : counted ('/' :: t) = counted t :=
  counted_append_slash [] t

theorem counted_current_slash (t : Text) : counted ('.' :: '/' :: t) = counted t :=
  counted_append_slash ['.'] t

/-- The component that opens a path is one character long, and takes no part in the `counted`
ones. -/
theorem counted_drop_one {c : Component} (h : opening? path = some c) :
    counted (path.drop 1) = counted path := by
  unfold opening? at h
  split at h
  · exact (counted_slash _).symm
  · rfl
  · exact (counted_slash _).trans (counted_current_slash _).symm
  · cases h

/-! ## What is taken off at the front -/

theorem counted_dropLeading (t : Text) : counted (dropLeading t) = counted t := by
  fun_induction dropLeading t with
  | case1 => rfl
  | case2 => rfl
  | case3 t ih => rw [ih, counted_slash]
  | case4 t ih => rw [ih, counted_current_slash]
  | case5 => rfl

theorem opening?_dropLeading (t : Text) : opening? (dropLeading t) = none := by
  fun_induction dropLeading t with
  | case1 => rfl
  | case2 => rfl
  | case3 t ih => exact ih
  | case4 t ih => exact ih
  | case5 t hnil hcurrent hslash hcurrentSlash =>
    unfold opening?
    split <;> simp_all

/-- What is left behind the first segment are the other ones. -/
theorem counted_dropSegment (t : Text) :
    counted (dropSegment t) = (segments t).tail.filterMap Component.ofSegment? := by
  induction t with
  | nil => rfl
  | cons c t ih =>
    by_cases hc : c = '/'
    · simp [dropSegment, segments, piecesBetween, hc, counted]
    · obtain ⟨first, others, hpieces⟩ := List.exists_cons_of_ne_nil (piecesBetween_ne_nil '/' t)
      simp only [segments, hpieces] at ih
      simp [dropSegment, segments, piecesBetween, hc, hpieces, ih]

/-- A text that opens no path starts with a segment that counts. -/
theorem exists_ofSegment? (ht : t ≠ []) (hopening : opening? t = none) :
    ∃ first others c, segments t = first :: others ∧ Component.ofSegment? first = some c := by
  obtain ⟨c, rest, rfl⟩ := List.exists_cons_of_ne_nil ht
  rw [opening?_cons] at hopening
  obtain ⟨hslash, hcurrent⟩ : c ≠ '/' ∧ ¬ (c = '.' ∧ rest.head?.getD '/' = '/') := by
    split at hopening <;> simp_all
  obtain ⟨first, others, hpieces⟩ := List.exists_cons_of_ne_nil (piecesBetween_ne_nil '/' rest)
  -- the first character stands alone only in front of a slash or at the end
  have hfirst : first = [] → rest.head?.getD '/' = '/' := by
    rintro rfl
    cases rest with
    | nil => rfl
    | cons d rest =>
      by_cases hd : d = '/'
      · simp [hd]
      · rw [piecesBetween, if_neg hd] at hpieces
        split at hpieces <;> simp at hpieces
  refine ⟨c :: first, others, ?_⟩
  simp only [segments, piecesBetween, if_neg hslash, hpieces, true_and]
  unfold Component.ofSegment?
  split <;> simp_all

theorem counted_dropSegment_of_opening? (hopening : opening? t = none) :
    counted (dropSegment t) = (counted t).drop 1 := by
  by_cases ht : t = []
  · rw [ht]
    rfl
  · obtain ⟨first, others, c, hsegments, hfirst⟩ := exists_ofSegment? ht hopening
    rw [counted_dropSegment, counted, hsegments, List.filterMap_cons_some hfirst]
    rfl

/-- Only the empty path has no components. -/
theorem components_ne_nil (hpath : path ≠ []) : components path ≠ [] := by
  rw [components_eq]
  cases hopening : opening? path with
  | some c => simp
  | none =>
    obtain ⟨first, others, c, hsegments, hfirst⟩ := exists_ofSegment? hpath hopening
    simp [counted, hsegments, hfirst]

/-! ## What is trimmed at the end -/

/-- Whether a text adds nothing that counts (`counted`) when it stands behind a path. A trimmed text
is kept apart as a text, since the names before it have to stay whole. -/
inductive Uncounted : Text → Prop
  /-- it is empty -/
  | nothing : Uncounted []
  /-- it is a slash, and nothing behind it counts -/
  | slash {behind : Text} (h : counted behind = []) : Uncounted ('/' :: behind)

namespace Uncounted

variable {kept trimmed behind : Text}

/-- What is trimmed can go on with a slash and more that does not count. -/
theorem append_slash (h : Uncounted trimmed) (hbehind : counted behind = []) :
    Uncounted (trimmed ++ '/' :: behind) := by
  cases h with
  | nothing => exact .slash hbehind
  | @slash behind' h =>
    have hboth : counted (behind' ++ '/' :: behind) = [] := by
      rw [counted_append_slash, h, hbehind]
      rfl
    exact .slash hboth

/-- What is trimmed is none of the components of a path. -/
theorem counted_append (h : Uncounted trimmed) (kept : Text) :
    counted (kept ++ trimmed) = counted kept := by
  cases h with
  | nothing => rw [List.append_nil]
  | slash h => rw [counted_append_slash, h, List.append_nil]

theorem opening?_append (h : Uncounted trimmed) (hkept : kept ≠ []) :
    opening? (kept ++ trimmed) = opening? kept := by
  cases h with
  | nothing => rw [List.append_nil]
  | slash => exact opening?_append_slash hkept _

end Uncounted

/-- What is taken off a reversed text counts for nothing at its end (`Uncounted`). -/
theorem reverse_eq_dropTrailing_append (t : Text) :
    ∃ trimmed, t.reverse = (dropTrailing t).reverse ++ trimmed ∧ Uncounted trimmed := by
  fun_induction dropTrailing t with
  | case1 t ih =>
    obtain ⟨trimmed, hreverse, htrimmed⟩ := ih
    exact ⟨trimmed ++ ['/'], by simp [hreverse], htrimmed.append_slash rfl⟩
  | case2 t ih =>
    obtain ⟨trimmed, hreverse, htrimmed⟩ := ih
    exact ⟨trimmed ++ ['/', '.'], by simp [hreverse], htrimmed.append_slash rfl⟩
  | case3 => exact ⟨[], (List.append_nil _).symm, .nothing⟩

open trimmedEnd (trimBody)

/-- A trimmed text is what is left in front of what is trimmed, or nothing at all where only a `.`
is left. -/
theorem eq_trimBody_append (body : Text) :
    ∃ kept trimmed, body = kept ++ trimmed ∧ Uncounted trimmed ∧
      (trimBody body = kept ∨ kept = ['.'] ∧ trimBody body = []) := by
  obtain ⟨trimmed, hbody, htrimmed⟩ := reverse_eq_dropTrailing_append body.reverse
  rw [List.reverse_reverse] at hbody
  refine ⟨_, trimmed, hbody, htrimmed, ?_⟩
  unfold trimBody
  split
  · next hdot => exact .inr ⟨by rw [hdot]; rfl, rfl⟩
  · exact .inl rfl

theorem counted_trimBody (body : Text) : counted (trimBody body) = counted body := by
  obtain ⟨kept, trimmed, hbody, htrimmed, hkept⟩ := eq_trimBody_append body
  rw [hbody, htrimmed.counted_append, ← hbody]
  rcases hkept with hkept | ⟨rfl, hnil⟩
  · rw [hkept]
  · rw [hnil]
    rfl

/-- A text that opens no path (`opening?`) opens none when it is trimmed. -/
theorem opening?_trimBody {body : Text} (h : opening? body = none) :
    opening? (trimBody body) = none := by
  obtain ⟨kept, trimmed, hbody, htrimmed, hkept | ⟨-, hnil⟩⟩ := eq_trimBody_append body
  · rw [hkept]
    by_cases hne : kept = []
    · rw [hne]
      rfl
    · rwa [hbody, htrimmed.opening?_append hne] at h
  · rw [hnil]
    rfl

/-- Trimming leaves nothing of a text that starts with a slash, or this slash. -/
theorem trimBody_slash (t : Text) :
    trimBody ('/' :: t) = [] ∨ ∃ rest, trimBody ('/' :: t) = '/' :: rest := by
  obtain ⟨kept, trimmed, hbody, -, hkept | ⟨-, hnil⟩⟩ := eq_trimBody_append ('/' :: t)
  · rw [hkept]
    cases kept with
    | nil => exact .inl rfl
    | cons c rest =>
      obtain ⟨rfl, -⟩ := List.cons.inj hbody
      exact .inr ⟨rest, rfl⟩
  · exact .inl hnil

/-- **Trimming keeps all components.** `dropComponents` trims what it leaves, also where nothing is
dropped. -/
theorem components_trimmedEnd (path : FilePath) :
    components (trimmedEnd path) = components path := by
  unfold trimmedEnd
  split
  · next rest =>
    rw [components_eq, components_eq, counted_slash, counted_slash, counted_trimBody]
    rfl
  · next rest =>
    have hcounted := counted_trimBody ('/' :: rest)
    rw [components_eq ('.' :: '/' :: rest), counted_current_slash, ← counted_slash, ← hcounted]
    rcases trimBody_slash rest with hnil | ⟨kept, hkept⟩
    · rw [hnil]
      rfl
    · rw [hkept, components_eq, counted_current_slash, counted_slash]
      rfl
  · rfl
  · have hopening : opening? path = none := by
      unfold opening?
      split <;> simp_all
    rw [components_eq, components_eq, opening?_trimBody hopening, hopening, counted_trimBody]

/-! ## Taking off components -/

open dropComponents (body)

theorem opening?_body (n : Nat) (t : Text) : opening? (body n t) = none := by
  induction n generalizing t with
  | zero => exact opening?_trimBody (opening?_dropLeading t)
  | succ n ih => exact ih _

/-- Each segment that `body` takes off is one that counts, since those that do not are dropped with
the one before. -/
theorem counted_body (n : Nat) (t : Text) : counted (body n t) = (counted t).drop n := by
  induction n generalizing t with
  | zero => rw [body, counted_trimBody, counted_dropLeading, List.drop_zero]
  | succ n ih =>
    rw [body, ih, counted_dropSegment_of_opening? (opening?_dropLeading t), counted_dropLeading,
      List.drop_drop, Nat.add_comm]

/-- What is left of a path behind its first component does not open one. -/
theorem opening?_dropComponents (path : FilePath) (n : Nat) :
    opening? (dropComponents path (n + 1)) = none := by
  rw [dropComponents]
  cases opening? path <;> exact opening?_body _ _

/-- **The text that is left** of a path has the components that are left. -/
theorem components_dropComponents (path : FilePath) (n : Nat) :
    components (dropComponents path n) = (components path).drop n := by
  cases n with
  | zero => exact components_trimmedEnd path
  | succ n =>
    rw [components_eq, opening?_dropComponents, components_eq, dropComponents]
    cases hopening : opening? path with
    | none => exact counted_body (n + 1) path
    | some c =>
      dsimp only
      rw [counted_body, counted_drop_one hopening]
      rfl

/-! ## Paths below a directory -/

theorem isBelow_iff : isBelow directory path ↔ components directory <+: components path :=
  List.isPrefixOf_iff_prefix

theorem isAbsolute_eq_false_of_opening? (h : opening? path = none) : isAbsolute path = false := by
  rw [Bool.eq_false_iff, ne_eq, isAbsolute_iff, h]
  simp

/-- What is left of a path behind a directory does not open one, so it can be joined to the
directory. -/
theorem opening?_behind (hdirectory : directory ≠ []) (path : FilePath) :
    opening? (dropComponents path (components directory).length) = none := by
  obtain ⟨first, others, hcomponents⟩ :=
    List.exists_cons_of_ne_nil (components_ne_nil hdirectory)
  rw [hcomponents]
  exact opening?_dropComponents path others.length

/-- **What is left of a path leads back to it** from the directory. -/
theorem components_join_dropComponents (h : components directory <+: components path) :
    components (join directory (dropComponents path (components directory).length)) =
      components path := by
  by_cases hdirectory : directory = []
  · have hjoin : ∀ t, join [] t = t := by
      intro t
      unfold join
      split <;> rfl
    rw [hdirectory, hjoin, components_dropComponents]
    rfl
  · have hopening := opening?_behind hdirectory path
    have hleft := components_dropComponents path (components directory).length
    rw [components_eq, hopening] at hleft
    rw [components_join_of_relative hdirectory (isAbsolute_eq_false_of_opening? hopening)]
    refine (congrArg _ hleft).trans ?_
    exact List.prefix_iff_eq_append.mp h

end FilePath

/-! ## Files that are found -/

namespace Discovery

open FilePath (components join isAbsolute)

/-- Where a file lies, as seen from the root of a project. All that `discover` lists does. An
absolute path that was given stays absolute, even if it leads into the root. -/
inductive LiesIn (root path : FilePath) : Prop
  /-- below the root -/
  | below (h : components root <+: components path)
  /-- anywhere, with a path that says so by itself -/
  | anywhere (h : isAbsolute path)

variable {fs : FileSystem} {s : Settings} {root target path f : FilePath} {paths : List FilePath}

/-- Joining does not lead out of the root, but to an absolute path. -/
theorem LiesIn.join (h : LiesIn root path) (name : Text) : LiesIn root (join path name) := by
  cases hname : isAbsolute name with
  | true =>
    have hjoin : FilePath.join path name = name := by rw [FilePath.join, if_pos hname]
    exact .anywhere (by rw [hjoin, hname])
  | false =>
    cases h with
    | below h =>
      apply LiesIn.below
      by_cases hpath : path = []
      · -- nothing but a root without components has the empty path below it
        rw [hpath] at h
        rw [List.prefix_nil.mp h]
        exact List.nil_prefix
      · rw [FilePath.components_join_of_relative hpath hname]
        exact h.trans (List.prefix_append _ _)
    | anywhere h =>
      have hpath : path ≠ [] := by
        rintro rfl
        cases h
      apply LiesIn.anywhere
      rw [FilePath.isAbsolute_iff, FilePath.opening?_join hpath hname]
      exact FilePath.isAbsolute_iff.mp h

theorem LiesIn.foldl_join (h : LiesIn root path) (names : List Text) :
    LiesIn root (names.foldl FilePath.join path) := by
  induction names generalizing path with
  | nil => exact h
  | cons name rest ih => exact ih (h.join name)

/-- A target lies in the root (`LiesIn`), or was given by an absolute path. -/
theorem liesIn_of_mem_targets (h : target ∈ targets root paths) : LiesIn root target := by
  have hroot : LiesIn root root := .below (List.prefix_refl _)
  unfold targets at h
  split at h
  · rwa [List.mem_singleton.mp h]
  · obtain ⟨path, -, rfl⟩ := List.mem_map.mp h
    exact hroot.join path

/-- What a target contributes lies where the target does. -/
theorem Finds.liesIn (h : Finds fs s target f) (htarget : LiesIn root target) : LiesIn root f := by
  cases h with
  | itself => exact htarget
  | below _ hreached hf =>
    rcases reached_eq_ok hreached with rfl | ⟨l, -, -, rfl⟩
    · cases hf
    · obtain ⟨names, -, rfl⟩ := List.mem_map.mp hf
      exact htarget.foldl_join names

end Discovery

/-! ## Printed paths -/

section Displayed

open FilePath (components join same)

variable {root path f g : FilePath}

theorem displayPath_of_below (h : components root <+: components path) :
    displayPath root path = FilePath.dropComponents path (components root).length := by
  rw [displayPath, FilePath.relativeTo?, if_pos (FilePath.isBelow_iff.mpr h)]
  rfl

theorem displayPath_of_not_below (h : ¬ components root <+: components path) :
    displayPath root path = path := by
  rw [displayPath, FilePath.relativeTo?, if_neg (mt FilePath.isBelow_iff.mp h)]
  rfl

/-- A path below the root is told by what is printed of it (`displayPath`). -/
theorem same_join_displayPath (h : components root <+: components path) :
    same (join root (displayPath root path)) path := by
  rw [displayPath_of_below h]
  exact FilePath.same_iff.mpr (FilePath.components_join_dropComponents h)

/-- What is printed of a path tells whether it is below the root, if it is absolute otherwise. -/
theorem displayPath_ne (hf : components root <+: components f)
    (hg : ¬ components root <+: components g) (habsolute : FilePath.isAbsolute g) :
    displayPath root f ≠ displayPath root g := by
  have hroot : root ≠ [] := by
    rintro rfl
    exact hg List.nil_prefix
  have hrelative : FilePath.isAbsolute (displayPath root f) = false := by
    rw [displayPath_of_below hf]
    exact FilePath.isAbsolute_eq_false_of_opening? (FilePath.opening?_behind hroot f)
  intro heq
  rw [heq, displayPath_of_not_below hg, habsolute] at hrelative
  cases hrelative

/-- **Printed paths tell apart** files that lie in the root. -/
theorem same_of_displayPath_eq (hf : Discovery.LiesIn root f) (hg : Discovery.LiesIn root g)
    (heq : displayPath root f = displayPath root g) : same f g := by
  by_cases hbelow : components root <+: components f
  · by_cases hbelow' : components root <+: components g
    · have hback := same_join_displayPath hbelow
      rw [heq] at hback
      exact FilePath.same_trans _ _ _ (FilePath.same_symm _ _ hback) (same_join_displayPath hbelow')
    · cases hg with
      | below hg => exact absurd hg hbelow'
      | anywhere hg => exact absurd heq (displayPath_ne hbelow hbelow' hg)
  · by_cases hbelow' : components root <+: components g
    · cases hf with
      | below hf => exact absurd hf hbelow
      | anywhere hf => exact absurd heq.symm (displayPath_ne hbelow' hbelow hf)
    · rw [displayPath_of_not_below hbelow, displayPath_of_not_below hbelow'] at heq
      rw [heq]
      exact FilePath.same_refl g

/-- **What is printed of paths is unambiguous.** A path below the root is what its printed text
(`displayPath`) means in the root, and any other path is printed as it is. No two files that
`discover` lists are printed alike. -/
theorem displayPath_unambiguous (root : FilePath) :
    (∀ path, components root <+: components path →
      same (join root (displayPath root path)) path) ∧
    (∀ path, ¬ components root <+: components path → displayPath root path = path) ∧
    ∀ (fs : FileSystem) (s : Settings) (paths files : List FilePath),
      discover fs s root paths = .ok files → (files.map (displayPath root)).Nodup := by
  refine ⟨fun path => same_join_displayPath, fun path => displayPath_of_not_below, ?_⟩
  intro fs s paths files hfiles
  have hlies : ∀ f ∈ files, Discovery.LiesIn root f := by
    intro f hf
    obtain ⟨target, htarget, hfinds⟩ := finds_of_mem_discover hfiles hf
    exact hfinds.liesIn (Discovery.liesIn_of_mem_targets htarget)
  apply List.pairwise_map.mpr
  refine (discover_pairwise hfiles).imp_of_mem ?_
  intro f g hf hg hlt heq
  have hsame := same_of_displayPath_eq (hlies f hf) (hlies g hg) heq
  rw [FilePath.compare_eq_eq_iff.mpr hsame] at hlt
  cases hlt

/-- A root that is written with more than its names, and two files, each given by its absolute path
and by a path in the root. -/
theorem displayPath_unambiguous_overlapping :
    let fs : FileSystem :=
      ⟨[(["w", "p", "a.ts"].map String.toList, .text []),
        (["w", "x.ts"].map String.toList, .text [])], [], ["w".toList]⟩
    let root := "./p//".toList
    let paths := ["a.ts", "/w/p/a.ts", "..//./x.ts", "/w/./x.ts"].map String.toList
    let files := ["/w/p/a.ts", "/w/./x.ts", "./p//..//./x.ts", "./p//a.ts"].map String.toList
    components root <+: components "./p//..//./x.ts".toList ∧
      same (join root (displayPath root "./p//..//./x.ts".toList)) "./p//..//./x.ts".toList ∧
      ¬ components root <+: components "/w/./x.ts".toList ∧
      displayPath root "/w/./x.ts".toList = "/w/./x.ts".toList ∧
      discover fs .default root paths = .ok files ∧ (files.map (displayPath root)).Nodup ∧
      files.map (displayPath root) =
        ["/w/p/a.ts", "/w/./x.ts", "..//./x.ts", "a.ts"].map String.toList := by
  intro fs root paths files
  have hbelow : components root <+: components "./p//..//./x.ts".toList := by decide +kernel
  have hnot : ¬ components root <+: components "/w/./x.ts".toList := by decide +kernel
  have hfiles : discover fs .default root paths = .ok files :=
    eq_ok_of_toOption (by decide +kernel)
  obtain ⟨hsame, hkept, hnodup⟩ := displayPath_unambiguous root
  exact ⟨hbelow, hsame _ hbelow, hnot, hkept _ hnot, hfiles,
    hnodup fs .default paths files hfiles, by decide +kernel⟩

end Displayed

end DotJs
