import DotJs.Proofs.JoinedPaths

/-!
# Which files are found

Discovery deals with one target after the other, and then puts what it has into order. What it comes
to is a union: a file is found when some target contributes it.

* `Discovery.Finds` says what a target contributes. A target that is a file stands for itself, even
  if it is ignored; any other is walked through, and `Discovery.reached` is what a walk comes to,
  which no settings have a part in;
* `Discovery.mem_ofTargets_iff` and `Discovery.exists_ofTargets_error_iff` are about all targets;
* `isAmong_discover_iff` carries this over to the list in order, where paths count as equal when
  their components are.

`discover_union` puts this together.
-/

namespace DotJs

variable {fs : FileSystem} {s : Settings} {root target f g : FilePath}
  {paths targets files : List FilePath} {fault : WalkFault}

/-! ## Paths up to the way they are written -/

namespace FilePath

theorem same_iff : same f g ↔ components f = components g := beq_iff_eq

theorem same_refl (f : FilePath) : same f f := same_iff.mpr rfl

theorem same_symm (f g : FilePath) (h : same f g) : same g f := same_iff.mpr (same_iff.mp h).symm

theorem same_trans (e f g : FilePath) (h : same e f) (h' : same f g) : same e g :=
  same_iff.mpr ((same_iff.mp h).trans (same_iff.mp h'))

/-- Whether a path is one of some others, however it is written: `a//b` counts as `a/b`, because
listing keeps one of the two. -/
def IsAmong (files : List FilePath) (f : FilePath) : Prop := ∃ g ∈ files, same g f

instance (files : List FilePath) (f : FilePath) : Decidable (IsAmong files f) :=
  inferInstanceAs (Decidable (∃ g ∈ files, same g f))

end FilePath

/-! ## What is below a directory -/

namespace FileSystem

variable {l : Location} {path : Location}

/-- Whether all names in a file system can stand between two slashes (`IsName`), as those of a real
one do. -/
def WellNamed (fs : FileSystem) : Prop := ∀ file ∈ fs.files, ∀ name ∈ file.1, IsName name

instance (fs : FileSystem) : Decidable fs.WellNamed :=
  inferInstanceAs (Decidable (∀ file ∈ fs.files, ∀ name ∈ file.1, IsName name))

theorem mem_filesBelow_iff : path ∈ fs.filesBelow l ↔ path ≠ [] ∧ fs.isFileAt (l ++ path) := by
  unfold filesBelow
  rw [List.mem_map]
  constructor
  · rintro ⟨file, hfile, rfl⟩
    obtain ⟨-, hbelow⟩ := List.mem_filter.mp hfile
    obtain ⟨habove, hthere⟩ := Bool.and_eq_true_iff.mp hbelow
    obtain ⟨hstart, hlength⟩ := Bool.and_eq_true_iff.mp habove
    obtain ⟨path, hpath⟩ := List.isPrefixOf_iff_prefix.mp hstart
    rw [← hpath] at hthere hlength ⊢
    rw [List.drop_left]
    refine ⟨?_, hthere⟩
    rintro rfl
    simp at hlength
  · rintro ⟨hne, hthere⟩
    obtain ⟨file, hfile, hl⟩ := exists_mem_files hthere
    have habove : isAbove l file.1 := by
      rw [hl]
      simp [isAbove, List.length_pos_iff.mpr hne]
    have hbelow : (isAbove l file.1 && fs.isFileAt file.1) = true := by
      rw [habove, hl]
      exact hthere
    exact ⟨file, List.mem_filter.mpr ⟨hfile, hbelow⟩, by rw [hl, List.drop_left]⟩

/-- A walk comes to the files below a directory for which all entries on the way are looked at
(`Ignore.isLookedAt`). It never enters an ignored directory, so the condition is on each of them. -/
theorem mem_walkedFiles_iff :
    path ∈ fs.walkedFiles l ↔ path ≠ [] ∧ fs.isFileAt (l ++ path) ∧
      ∀ n < path.length, Ignore.isLookedAt fs (l ++ path.take (n + 1)) := by
  unfold walkedFiles
  rw [List.mem_filter, mem_filesBelow_iff, List.all_eq_true, and_assoc]
  simp only [List.mem_range]

theorem WellNamed.isName (hnames : fs.WellNamed) (hfile : fs.isFileAt (l ++ path)) :
    ∀ name ∈ path, IsName name := by
  obtain ⟨file, hmem, hl⟩ := exists_mem_files hfile
  intro name hname
  exact hnames file hmem name (by rw [hl]; exact List.mem_append_right l hname)

end FileSystem

/-! ## One target -/

namespace Discovery

/-- The files that a walk from a target comes to, in scope or not. It is `Discovery.walk` before the
settings are asked. -/
def reached (fs : FileSystem) (target : FilePath) : Except WalkFault (List FilePath) :=
  if isStandardInput target then .ok []
  else
    match fs.resolve target with
    | .error fault => .error (.unreachable target fault)
    | .ok l =>
      match Ignore.faultsAbove fs l with
      | [] => .ok ((fs.walkedFiles l).map fun path => path.foldl FilePath.join target)
      | faults => .error (.faultyRules faults)

/-- A walk takes from what it has `reached` the files in scope, and fails just when that does. -/
theorem walk_eq_map_reached (fs : FileSystem) (s : Settings) (target : FilePath) :
    walk fs s target =
      (reached fs target).map (List.filter fun f => s.supports f && !s.ignores f) := by
  unfold walk reached
  split
  · rfl
  · cases fs.resolve target with
    | error fault => rfl
    | ok l => cases hfaults : Ignore.faultsAbove fs l <;> simp only [hfaults] <;> rfl

/-- A walk that comes to an end is one through the standard input, or one through a place with no
fault above it. -/
theorem reached_eq_ok (h : reached fs target = .ok files) :
    files = [] ∨ ∃ l, fs.resolve target = .ok l ∧ Ignore.faultsAbove fs l = [] ∧
      files = (fs.walkedFiles l).map fun path => path.foldl FilePath.join target := by
  unfold reached at h
  split at h
  · exact .inl (Except.ok.inj h).symm
  · cases hl : fs.resolve target with
    | error fault =>
      rw [hl] at h
      cases h
    | ok l =>
      rw [hl] at h
      dsimp only at h
      split at h
      · next hfaults => exact .inr ⟨l, rfl, hfaults, (Except.ok.inj h).symm⟩
      · cases h

/-- Whether a target contributes a file. It is told for each file by itself, where
`Discovery.ofTarget` makes a list. -/
inductive Finds (fs : FileSystem) (s : Settings) (target : FilePath) : FilePath → Prop
  /-- a target that is a file contributes itself, ignored or not -/
  | itself (hfile : fs.isFile target) (hsupports : s.supports target) : Finds fs s target target
  /-- any other target contributes files that a walk comes to -/
  | below {files : List FilePath} {f : FilePath} (hfile : fs.isFile target = false)
      (hreached : reached fs target = .ok files) (hf : f ∈ files) (hsupports : s.supports f)
      (hkept : s.ignores f = false) : Finds fs s target f

/-- Whether a target cannot be walked through, with the fault that `Discovery.ofTarget` tells. No
settings have a part in this. -/
structure FailsWith (fs : FileSystem) (target : FilePath) (fault : WalkFault) : Prop where
  /-- it is not a file, which would not be walked through -/
  isFile : fs.isFile target = false
  /-- the walk comes to no end -/
  reached : reached fs target = .error fault

theorem ofTarget_eq_error_iff :
    ofTarget fs s target = .error fault ↔ FailsWith fs target fault := by
  unfold ofTarget
  rw [walk_eq_map_reached]
  split
  · next hfile => exact ⟨(nomatch ·), fun h => nomatch hfile.symm.trans h.isFile⟩
  · next hfile =>
    constructor
    · intro h
      refine ⟨Bool.eq_false_iff.mpr hfile, ?_⟩
      cases hreached : reached fs target with
      | error e =>
        rw [hreached] at h
        exact congrArg _ (Except.error.inj h)
      | ok files =>
        rw [hreached] at h
        cases h
    · intro h
      rw [h.reached]
      rfl

/-- What is taken from a target is what it `Finds`. -/
theorem mem_ofTarget_iff (h : ofTarget fs s target = .ok files) :
    f ∈ files ↔ Finds fs s target f := by
  unfold ofTarget at h
  rw [walk_eq_map_reached] at h
  split at h
  · next hfile =>
    obtain rfl := Except.ok.inj h
    constructor
    · intro hf
      split at hf
      · next hsupports =>
        obtain rfl := List.mem_singleton.mp hf
        exact .itself hfile hsupports
      · cases hf
    · intro hf
      cases hf with
      | itself hfile hsupports =>
        rw [if_pos hsupports]
        exact List.mem_singleton_self _
      | below hfile' => exact nomatch hfile.symm.trans hfile'
  · next hfile =>
    cases hreached : reached fs target with
    | error fault =>
      rw [hreached] at h
      cases h
    | ok found =>
      rw [hreached] at h
      obtain rfl := Except.ok.inj h
      rw [List.mem_filter, Bool.and_eq_true, Bool.not_eq_true']
      constructor
      · exact fun ⟨hf, hsupports, hkept⟩ =>
          .below (Bool.eq_false_iff.mpr hfile) hreached hf hsupports hkept
      · intro hf
        cases hf with
        | itself hfile' => exact absurd hfile' hfile
        | below _ hreached' hf hsupports hkept =>
          obtain rfl := Except.ok.inj (hreached.symm.trans hreached')
          exact ⟨hf, hsupports, hkept⟩

/-- Whatever a target contributes is a file, by `FileSystem.resolve_foldl_join` for a walk. -/
theorem Finds.isFile (h : Finds fs s target f) (hnames : fs.WellNamed) : fs.isFile f := by
  cases h with
  | itself hfile => exact hfile
  | below _ hreached hf =>
    rcases reached_eq_ok hreached with rfl | ⟨l, hl, -, rfl⟩
    · cases hf
    · obtain ⟨path, hpath, rfl⟩ := List.mem_map.mp hf
      obtain ⟨-, hthere, -⟩ := FileSystem.mem_walkedFiles_iff.mp hpath
      unfold FileSystem.isFile
      rw [FileSystem.resolve_foldl_join hl (hnames.isName hthere) hthere]
      exact hthere

/-! ## All targets -/

/-- Discovery fails just when a target does (`FailsWith`); which fault it tells depends on the order
of targets. -/
theorem exists_ofTargets_error_iff :
    (∃ fault, ofTargets fs s targets = .error fault) ↔
      ∃ target ∈ targets, ∃ fault, FailsWith fs target fault := by
  induction targets with
  | nil => simp [ofTargets]
  | cons target rest ih =>
    simp only [List.mem_cons, or_and_right, exists_or, exists_eq_left]
    rw [← ih, ofTargets]
    simp only [← ofTarget_eq_error_iff (s := s)]
    cases ofTarget fs s target with
    | error fault => exact ⟨fun _ => .inl ⟨fault, rfl⟩, fun _ => ⟨fault, rfl⟩⟩
    | ok files =>
      cases ofTargets fs s rest with
      | error fault => exact ⟨fun _ => .inr ⟨fault, rfl⟩, fun _ => ⟨fault, rfl⟩⟩
      | ok others => simp

/-- What is taken from some targets is what any of them `Finds`. -/
theorem mem_ofTargets_iff (h : ofTargets fs s targets = .ok files) :
    f ∈ files ↔ ∃ target ∈ targets, Finds fs s target f := by
  induction targets generalizing files with
  | nil =>
    obtain rfl := Except.ok.inj h
    simp
  | cons target rest ih =>
    rw [ofTargets] at h
    split at h
    · cases h
    · next first hfirst =>
      split at h
      · cases h
      · next others hothers =>
        obtain rfl := Except.ok.inj h
        rw [List.mem_append, mem_ofTarget_iff hfirst, ih hothers]
        simp only [List.mem_cons, or_and_right, exists_or, exists_eq_left]

/-- The targets for given paths are what the paths mean in the root. Without any path the root is
the only target. -/
theorem mem_targets_iff (hpaths : paths ≠ []) :
    target ∈ Discovery.targets root paths ↔ ∃ path ∈ paths, FilePath.join root path = target := by
  rw [Discovery.targets, if_neg hpaths, List.mem_map]

end Discovery

/-! ## The list in order -/

theorem discover_eq_ok_iff :
    discover fs s root paths = .ok files ↔
      ∃ found, Discovery.ofTargets fs s (Discovery.targets root paths) = .ok found ∧
        files = dropRepeats FilePath.same (stableSort FilePath.le found) := by
  unfold discover
  cases Discovery.ofTargets fs s (Discovery.targets root paths) with
  | error fault => simp
  | ok found => simp [eq_comm]

theorem exists_discover_error_iff :
    (∃ fault, discover fs s root paths = .error fault) ↔
      ∃ target ∈ Discovery.targets root paths, ∃ fault, Discovery.FailsWith fs target fault := by
  rw [← Discovery.exists_ofTargets_error_iff (s := s)]
  unfold discover
  cases Discovery.ofTargets fs s (Discovery.targets root paths) with
  | error fault => simp
  | ok found => simp

/-- Whatever is listed was contributed by a target (`Finds`). -/
theorem finds_of_mem_discover (h : discover fs s root paths = .ok files) (hf : f ∈ files) :
    ∃ target ∈ Discovery.targets root paths, Discovery.Finds fs s target f := by
  obtain ⟨found, hfound, rfl⟩ := discover_eq_ok_iff.mp h
  exact (Discovery.mem_ofTargets_iff hfound).mp (mem_stableSort.mp (mem_of_mem_dropRepeats hf))

/-- Listing loses nothing of what targets contribute but other ways to write it, which
`FilePath.IsAmong` takes as one. -/
theorem isAmong_discover_iff (h : discover fs s root paths = .ok files) :
    FilePath.IsAmong files f ↔
      ∃ target ∈ Discovery.targets root paths,
        ∃ g, Discovery.Finds fs s target g ∧ FilePath.same g f := by
  constructor
  · rintro ⟨g, hg, hsame⟩
    obtain ⟨target, htarget, hfinds⟩ := finds_of_mem_discover h hg
    exact ⟨target, htarget, g, hfinds, hsame⟩
  · rintro ⟨target, htarget, g, hfinds, hsame⟩
    obtain ⟨found, hfound, rfl⟩ := discover_eq_ok_iff.mp h
    have hg : g ∈ stableSort FilePath.le found :=
      mem_stableSort.mpr ((Discovery.mem_ofTargets_iff hfound).mpr ⟨target, htarget, hfinds⟩)
    obtain ⟨e, he, hge⟩ := exists_mem_dropRepeats FilePath.same_refl FilePath.same_symm
      FilePath.same_trans hg
    exact ⟨e, he, FilePath.same_trans e g f (FilePath.same_symm g e hge) hsame⟩

/-- **Discovery is a union.** It fails just when some target is no file and cannot be walked through
(`FailsWith`). Otherwise it lists files strictly in the order of paths. Each was contributed by a
target (`Finds`), by itself when it is a file, or by a walk as a file in scope, and up to the way in
which paths are written (`IsAmong`) all that targets contribute is listed. For two lists of targets
taken together, in any order and any number of times, it fails just when it fails for one of them,
and otherwise lists what it lists for either. -/
theorem discover_union (fs : FileSystem) (s : Settings) (root : FilePath) (paths : List FilePath) :
    ((∃ fault, discover fs s root paths = .error fault) ↔
      ∃ target ∈ Discovery.targets root paths, ∃ fault, Discovery.FailsWith fs target fault) ∧
    (∀ files, discover fs s root paths = .ok files →
      files.Pairwise (fun a b => FilePath.compare a b = .lt) ∧
      (∀ f ∈ files, ∃ target ∈ Discovery.targets root paths, Discovery.Finds fs s target f) ∧
      (fs.WellNamed → ∀ f ∈ files, fs.isFile f) ∧
      ∀ f, FilePath.IsAmong files f ↔
        ∃ target ∈ Discovery.targets root paths,
          ∃ g, Discovery.Finds fs s target g ∧ FilePath.same g f) ∧
    ∀ more both, paths ≠ [] → more ≠ [] → (∀ path, path ∈ both ↔ path ∈ paths ∨ path ∈ more) →
      ((∃ fault, discover fs s root both = .error fault) ↔
        (∃ fault, discover fs s root paths = .error fault) ∨
          ∃ fault, discover fs s root more = .error fault) ∧
      ∀ files files', discover fs s root paths = .ok files →
        discover fs s root more = .ok files' →
        ∃ found, discover fs s root both = .ok found ∧
          ∀ f, FilePath.IsAmong found f ↔
            FilePath.IsAmong files f ∨ FilePath.IsAmong files' f := by
  refine ⟨exists_discover_error_iff, fun files h => ⟨discover_pairwise h, ?_, ?_, ?_⟩, ?_⟩
  · exact fun f hf => finds_of_mem_discover h hf
  · intro hnames f hf
    obtain ⟨target, -, hfinds⟩ := finds_of_mem_discover h hf
    exact hfinds.isFile hnames
  · exact fun f => isAmong_discover_iff h
  · intro more both hpaths hmore hboth
    -- the targets of both are those of either
    have htargets : ∀ target, target ∈ Discovery.targets root both ↔
        target ∈ Discovery.targets root paths ∨ target ∈ Discovery.targets root more := by
      intro target
      have hne : both ≠ [] := by
        obtain ⟨path, hpath⟩ := List.exists_mem_of_ne_nil paths hpaths
        exact List.ne_nil_of_mem ((hboth path).mpr (.inl hpath))
      rw [Discovery.mem_targets_iff hne, Discovery.mem_targets_iff hpaths,
        Discovery.mem_targets_iff hmore]
      simp only [hboth, or_and_right, exists_or]
    have hfails : (∃ fault, discover fs s root both = .error fault) ↔
        (∃ fault, discover fs s root paths = .error fault) ∨
          ∃ fault, discover fs s root more = .error fault := by
      simp only [exists_discover_error_iff, htargets, or_and_right, exists_or]
    refine ⟨hfails, fun files files' hfiles hfiles' => ?_⟩
    cases hfound : discover fs s root both with
    | error fault =>
      rcases hfails.mp ⟨fault, hfound⟩ with ⟨e, he⟩ | ⟨e, he⟩
      · exact nomatch he.symm.trans hfiles
      · exact nomatch he.symm.trans hfiles'
    | ok found =>
      refine ⟨found, rfl, fun f => ?_⟩
      rw [isAmong_discover_iff hfound, isAmong_discover_iff hfiles, isAmong_discover_iff hfiles']
      simp only [htargets, or_and_right, exists_or]

/-- A directory given twice, once as part of its parent, and a file that is ignored unless it is
given itself. A target that leads nowhere makes discovery fail. -/
theorem discover_union_overlapping :
    let fs : FileSystem :=
      ⟨[(["p", "src", "b.ts"].map String.toList, .text []),
        (["p", "src", "c.css"].map String.toList, .text []),
        (["p", "dist", "x.ts"].map String.toList, .text []),
        (["p", "a.ts"].map String.toList, .text [])], [], []⟩
    let root := "/p".toList
    let paths := ["src", "dist/x.ts"].map String.toList
    let more := ["./src/", "."].map String.toList
    let files := ["/p/dist/x.ts", "/p/src/b.ts"].map String.toList
    let files' := ["/p/./a.ts", "/p/./src/b.ts"].map String.toList
    paths ≠ [] ∧ more ≠ [] ∧ fs.WellNamed ∧
      discover fs .default root paths = .ok files ∧ discover fs .default root more = .ok files' ∧
      (∀ f ∈ files, fs.isFile f) ∧
      (∃ found, discover fs .default root (more ++ paths ++ more) = .ok found ∧
        found.length = 3 ∧ FilePath.IsAmong found "/p/src/b.ts".toList ∧
        FilePath.IsAmong found "/p/dist/x.ts".toList) ∧
      ∃ fault, discover fs .default root ["src".toList, "lib".toList] = .error fault := by
  intro fs root paths more files files'
  have hfiles : discover fs .default root paths = .ok files :=
    eq_ok_of_toOption (by decide +kernel)
  have hfiles' : discover fs .default root more = .ok files' :=
    eq_ok_of_toOption (by decide +kernel)
  have hnames : fs.WellNamed := by decide
  have hpaths : paths ≠ [] := List.cons_ne_nil _ _
  have hmore : more ≠ [] := List.cons_ne_nil _ _
  obtain ⟨-, hlisted, htogether⟩ := discover_union fs .default root paths
  obtain ⟨-, -, hfile, hlist⟩ := hlisted files hfiles
  obtain ⟨-, hunion⟩ := htogether more (more ++ paths ++ more) hpaths hmore (by grind)
  obtain ⟨found, hfound, hamong⟩ := hunion files files' hfiles hfiles'
  have hlength : (discover fs .default root (more ++ paths ++ more)).toOption.map List.length =
      some 3 := by decide +kernel
  rw [hfound] at hlength
  have hfails := (discover_union fs .default root ["src".toList, "lib".toList]).1
  refine ⟨hpaths, hmore, hnames, hfiles, hfiles', hfile hnames,
    ⟨found, hfound, Option.some.inj hlength, (hamong _).mpr (.inl ?_), (hamong _).mpr (.inl ?_)⟩,
    hfails.mpr ⟨"/p/lib".toList, ?_, .unreachable "/p/lib".toList .notFound, ?_⟩⟩
  · decide +kernel
  · decide +kernel
  · decide +kernel
  · exact ⟨by decide +kernel, rfl⟩

end DotJs
