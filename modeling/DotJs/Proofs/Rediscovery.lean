import DotJs.Proofs.BatchRun

/-!
# Finding the same files again

What a run is about is told by names, by directories and by the lines of ignore files. A run
writes only files with an extension that the project looks at, and ignore files have none. So the
same files are found after it.

* `FileSystem.fileName?_eq`: the last name of a path to a file is the name of the file. The
  extension of a file can therefore be seen from any path to it.
* `FileSystem.SameListing` holds of two file systems that differ at most in files that say nothing
  about others; `FileSystem.SameListing.discover_eq` is what follows.
* `FileSystem.commit_sameListing` is about one step of a run.
-/

namespace DotJs

variable {fs fs' fs'' : FileSystem} {s : Settings} {path : FilePath} {l l' : Location}

/-! ## Names of files -/

namespace FileSystem

/-- Where a directory is, there is no file, even if one is listed at the same place: `contentAt?`
looks for a directory first. -/
theorem isFileAt_eq_false (h : fs.isDirectory l) : fs.isFileAt l = false := by
  simp only [isFileAt, contentAt?]
  rw [if_pos h]
  rfl

/-- What is above a directory is a directory. -/
theorem isDirectory_dropLast (h : fs.isDirectory l) : fs.isDirectory l.dropLast := by
  have habove : l.dropLast <+: l := List.dropLast_prefix l
  simp only [isDirectory, isAbove, Bool.or_eq_true, Bool.and_eq_true, beq_iff_eq, List.any_eq_true,
    List.isPrefixOf_iff_prefix, decide_eq_true_eq] at h ⊢
  rcases h with (rfl | ⟨d, hd, hl⟩) | ⟨f, hf, hl, hlength⟩
  · exact .inl (.inl rfl)
  · exact .inl (.inr ⟨d, hd, habove.trans hl⟩)
  · exact .inr ⟨f, hf, habove.trans hl, Nat.lt_of_le_of_lt habove.length_le hlength⟩

/-- A step leads to a place with the name that the segment says, or to a directory, as `.` and `..`
do. -/
theorem step_eq_ok {segment : Text} (h : fs.step l segment = .ok l') :
    (∃ name, Component.ofSegment? segment = some (.name name) ∧ l' = l ++ [name]) ∨
      fs.isDirectory l' := by
  simp only [step] at h
  split at h
  · cases h
  · next hd =>
    have hdirectory : fs.isDirectory l := by simpa using hd
    split at h
    · cases h
      exact .inr hdirectory
    · cases h
      exact .inr (isDirectory_dropLast hdirectory)
    · next name hname =>
      split at h
      · cases h
        exact .inl ⟨name, hname, rfl⟩
      · cases h
    · cases h
      exact .inr hdirectory

/-- The last segment on the way to a file (`walkAlong`) is its name, since only a step by name ends
at a file, and none goes on from there. -/
theorem getLast?_of_walkAlong {segments : List Text} (hne : segments ≠ [])
    (h : fs.walkAlong l segments = .ok l') (hfile : fs.isFileAt l') :
    ∃ name, (segments.filterMap Component.ofSegment?).getLast? = some (.name name) ∧
      l'.getLast? = some name := by
  induction segments generalizing l with
  | nil => exact absurd rfl hne
  | cons segment rest ih =>
    rw [walkAlong] at h
    split at h
    · cases h
    · next k hstep =>
      cases rest with
      | nil =>
        obtain rfl : k = l' := Except.ok.inj h
        rcases step_eq_ok hstep with ⟨name, hname, rfl⟩ | hdirectory
        · exact ⟨name, by simp [hname], by simp⟩
        · rw [isFileAt_eq_false hdirectory] at hfile
          cases hfile
      | cons segment' rest =>
        obtain ⟨name, hlast, hname⟩ := ih (List.cons_ne_nil segment' rest) h
        refine ⟨name, ?_, hname⟩
        rw [List.filterMap_cons]
        cases Component.ofSegment? segment with
        | none => exact hlast
        | some c => rw [List.getLast?_cons, hlast]; rfl

end FileSystem

theorem piecesBetween_ne_nil {α : Type} [DecidableEq α] (x : α) (t : List α) :
    piecesBetween x t ≠ [] := by
  cases t with
  | nil => exact List.cons_ne_nil _ _
  | cons y rest =>
    rw [piecesBetween]
    split
    · exact List.cons_ne_nil _ _
    · split <;> exact List.cons_ne_nil _ _

/-- The last name (`fileName?`) of a path to a file is the name of the file. Paths that differ
before this name may lead to the same file. -/
theorem FileSystem.fileName?_eq (hl : fs.resolve path = .ok l) (hfile : fs.isFileAt l) :
    FilePath.fileName? path = l.getLast? := by
  simp only [resolve] at hl
  split at hl
  · cases hl
  · obtain ⟨name, hlast, hname⟩ :=
      getLast?_of_walkAlong (piecesBetween_ne_nil '/' path) hl hfile
    simp only [FilePath.fileName?, FilePath.components, FilePath.segments]
    rw [List.getLast?_append, hlast, hname]
    rfl

/-- All paths to a file show its language, as this hangs on the extension of its name. -/
theorem FileSystem.ofPath_eq {path' : FilePath} (hl : fs.resolve path = .ok l)
    (hl' : fs.resolve path' = .ok l) (hfile : fs.isFileAt l) :
    Language.ofPath path' = Language.ofPath path := by
  have hname : FilePath.fileName? path' = FilePath.fileName? path :=
    (fileName?_eq hl' hfile).trans (fileName?_eq hl hfile).symm
  simp only [Language.ofPath, FilePath.stemAndExtension?]
  rw [hname]

/-- Where in directories ignore files are. `Ignore.linesAt` is asked about no other files, so
writing elsewhere cannot change what is ignored. -/
def Ignore.ignoreFiles : List Location := [ownFile, sharedFile, excludeList]

theorem Ignore.ownFile_mem : ownFile ∈ ignoreFiles := .head _

theorem Ignore.sharedFile_mem : sharedFile ∈ ignoreFiles := .tail _ (.head _)

theorem Ignore.excludeList_mem : excludeList ∈ ignoreFiles := .tail _ (.tail _ (.head _))

/-- A file with an extension that the project looks at is none of the `Ignore.ignoreFiles`, since
those have none. -/
theorem Settings.ne_ignoreFile (hs : s.supports path) (hl : fs.resolve path = .ok l)
    (hfile : fs.isFileAt l) (directory : Location) :
    ∀ ignoreFile ∈ Ignore.ignoreFiles,
      directory ++ ignoreFile ≠ l := by
  rintro ignoreFile hmem rfl
  -- the last name of an ignore file has no extension
  have hnone : FilePath.stemAndExtension? path = none := by
    simp only [FilePath.stemAndExtension?]
    rw [FileSystem.fileName?_eq hl hfile, List.getLast?_append]
    simp only [Ignore.ignoreFiles, List.mem_cons, List.not_mem_nil, or_false] at hmem
    rcases hmem with rfl | rfl | rfl <;> rfl
  simp only [supports] at hs
  rw [hnone] at hs
  cases hs

/-! ## File systems with the same files -/

/-- Whether `discover` cannot tell two file systems apart: it asks where paths lead, what is there
and what ignore files say, and not what other files hold. -/
structure FileSystem.SameListing (fs fs' : FileSystem) : Prop where
  /-- all paths lead where they led -/
  resolve : ∀ path, fs'.resolve path = fs.resolve path
  /-- the directories are the same -/
  isDirectory : ∀ l, fs'.isDirectory l = fs.isDirectory l
  /-- the files are the same -/
  isFileAt : ∀ l, fs'.isFileAt l = fs.isFileAt l
  /-- and are listed in the same order -/
  locations : fs'.files.map Prod.fst = fs.files.map Prod.fst
  /-- ignore files have the same lines -/
  linesAt : ∀ ignoreFile ∈ Ignore.ignoreFiles,
    ∀ directory, Ignore.linesAt fs' (directory ++ ignoreFile) =
      Ignore.linesAt fs (directory ++ ignoreFile)

namespace FileSystem.SameListing

theorem refl (fs : FileSystem) : fs.SameListing fs :=
  ⟨fun _ => rfl, fun _ => rfl, fun _ => rfl, rfl, fun _ _ _ => rfl⟩

theorem trans (h : fs.SameListing fs') (h' : fs'.SameListing fs'') : fs.SameListing fs'' where
  resolve path := (h'.resolve path).trans (h.resolve path)
  isDirectory l := (h'.isDirectory l).trans (h.isDirectory l)
  isFileAt l := (h'.isFileAt l).trans (h.isFileAt l)
  locations := h'.locations.trans h.locations
  linesAt f hf directory := (h'.linesAt f hf directory).trans (h.linesAt f hf directory)

variable (h : fs.SameListing fs')

include h

theorem isFile (path : FilePath) : fs'.isFile path = fs.isFile path := by
  simp only [FileSystem.isFile]
  rw [h.resolve]
  simp only [h.isFileAt]

theorem filesBelow (directory : Location) : fs'.filesBelow directory = fs.filesBelow directory := by
  have hlocations : ∀ fs : FileSystem, fs.filesBelow directory =
      ((fs.files.map Prod.fst).filter fun l => isAbove directory l && fs.isFileAt l).map
        (List.drop directory.length) := by
    intro fs
    rw [List.filter_map, List.map_map]
    rfl
  rw [hlocations, hlocations, h.locations]
  simp only [h.isFileAt]

theorem decisionIn {ignoreFile : Location}
    (hfile : ignoreFile ∈ Ignore.ignoreFiles)
    (isDirectory : Bool) (directories : List (Location × Location)) :
    Ignore.decisionIn fs' ignoreFile isDirectory directories =
      Ignore.decisionIn fs ignoreFile isDirectory directories := by
  induction directories with
  | nil => rfl
  | cons d outer ih =>
    obtain ⟨directory, path⟩ := d
    rw [Ignore.decisionIn, Ignore.decisionIn, h.linesAt ignoreFile hfile, ih]

theorem isRepository (directory : Location) :
    Ignore.isRepository fs' directory = Ignore.isRepository fs directory := by
  simp only [Ignore.isRepository, isEntry]
  rw [h.isDirectory, h.isFileAt]

theorem decision? (l : Location) : Ignore.decision? fs' l = Ignore.decision? fs l := by
  simp only [Ignore.decision?, h.isRepository, h.isDirectory]
  rw [h.decisionIn Ignore.ownFile_mem, h.decisionIn Ignore.sharedFile_mem,
    h.decisionIn Ignore.excludeList_mem]

theorem faultsAbove (l : Location) : Ignore.faultsAbove fs' l = Ignore.faultsAbove fs l := by
  simp only [Ignore.faultsAbove, List.flatMap_cons, List.flatMap_nil]
  simp only [h.linesAt Ignore.ownFile Ignore.ownFile_mem,
    h.linesAt Ignore.sharedFile Ignore.sharedFile_mem,
    h.linesAt Ignore.excludeList Ignore.excludeList_mem]

theorem walkedFiles (directory : Location) :
    fs'.walkedFiles directory = fs.walkedFiles directory := by
  simp only [FileSystem.walkedFiles, Ignore.isLookedAt, h.decision?, h.filesBelow]

theorem ofTarget (s : Settings) (target : FilePath) :
    Discovery.ofTarget fs' s target = Discovery.ofTarget fs s target := by
  simp only [Discovery.ofTarget, Discovery.walk, h.isFile, h.resolve, h.faultsAbove,
    h.walkedFiles]

theorem ofTargets (s : Settings) (targets : List FilePath) :
    Discovery.ofTargets fs' s targets = Discovery.ofTargets fs s targets := by
  induction targets with
  | nil => rfl
  | cons target rest ih => rw [Discovery.ofTargets, Discovery.ofTargets, h.ofTarget, ih]

/-- **The same files are found** where the listing is the same. There is one lemma for each function
that `discover` is made of. -/
theorem discover_eq (s : Settings) (root : FilePath) (paths : List FilePath) :
    discover fs' s root paths = discover fs s root paths := by
  simp only [discover]
  rw [h.ofTargets]

end FileSystem.SameListing

/-! ## Runs -/

/-- A write to a file that is no ignore file is not seen by discovery (`SameListing`). -/
theorem FileSystem.update_sameListing (c : Content)
    (hne : ∀ directory, ∀ ignoreFile ∈ Ignore.ignoreFiles,
      directory ++ ignoreFile ≠ l) : fs.SameListing (fs.update l c) where
  resolve := resolve_update fs l c
  isDirectory l' := isDirectory_update fs l l' c
  isFileAt l' := isFileAt_update fs l l' c
  locations := by
    simp only [update, List.map_map]
    refine List.map_congr_left fun f _ => ?_
    simp only [Function.comp]
    split
    · next hf => exact hf.symm
    · rfl
  linesAt ignoreFile hfile directory := by
    simp only [Ignore.linesAt]
    rw [contentAt?_update_of_ne c (hne directory ignoreFile hfile)]

/-- A step that is about a file with a known extension is not seen by discovery, whether or not it
writes. -/
theorem FileSystem.commit_sameListing (fs : FileSystem) (hs : s.supports path) (rules : Rules)
    (mode : WriteMode) :
    fs.SameListing (fs.commit mode path (rewriteFile fs rules path)) := by
  rcases rewriteFile_cases fs rules path with ⟨fault, -, h⟩ | ⟨source, -, -, h⟩ |
    ⟨source, output, hread, -, h⟩
  · rw [h]
    exact .refl fs
  · rw [h]
    exact .refl fs
  · rw [h]
    simp only [commit]
    split
    · obtain ⟨l, hl, hc⟩ := read_eq_ok_iff.mp hread
      have hfile : fs.isFileAt l := by rw [isFileAt, hc, Option.isSome_some]
      simp only [write]
      rw [hl]
      exact update_sameListing _ (Settings.ne_ignoreFile hs hl hfile)
    · exact .refl fs

/-- A run about files with known extensions is not seen by discovery. The files need not lead
apart. -/
theorem processAll_sameListing {files : List FilePath} (hs : ∀ f ∈ files, s.supports f)
    (rules : Rules) (mode : WriteMode) (fs : FileSystem) :
    fs.SameListing (processAll rules mode fs files).1 := by
  induction files generalizing fs with
  | nil => exact .refl fs
  | cons path rest ih =>
    have hstep := fs.commit_sameListing (hs path List.mem_cons_self) rules mode
    exact hstep.trans (ih (fun f hf => hs f (List.mem_cons_of_mem path hf)) _)

theorem Discovery.supports_of_ofTarget {target : FilePath} {files : List FilePath}
    (h : ofTarget fs s target = .ok files) : ∀ f ∈ files, s.supports f := by
  intro f hf
  simp only [ofTarget, walk] at h
  split at h
  · cases h
    split at hf
    · next hs =>
      rw [List.mem_singleton.mp hf]
      exact hs
    · cases hf
  · split at h
    · cases h
      cases hf
    · split at h
      · cases h
      · split at h
        · cases h
          have hkept := (List.mem_filter.mp hf).2
          exact (Bool.and_eq_true_iff.mp hkept).1
        · cases h

theorem Discovery.supports_of_ofTargets {targets files : List FilePath}
    (h : ofTargets fs s targets = .ok files) : ∀ f ∈ files, s.supports f := by
  induction targets generalizing files with
  | nil =>
    cases h
    exact fun f hf => absurd hf List.not_mem_nil
  | cons target rest ih =>
    rw [ofTargets] at h
    split at h
    · cases h
    · next first hfirst =>
      split at h
      · cases h
      · next others hothers =>
        cases h
        intro f hf
        rcases List.mem_append.mp hf with hf | hf
        · exact supports_of_ofTarget hfirst f hf
        · exact ih hothers f hf

/-- All files that are found have an extension that the project looks at (`supports`), those that
were named as well. -/
theorem supports_of_discover {root : FilePath} {paths files : List FilePath}
    (h : discover fs s root paths = .ok files) : ∀ f ∈ files, s.supports f := by
  simp only [discover] at h
  split at h
  · cases h
  · next found hfound =>
    cases h
    exact fun f hf =>
      Discovery.supports_of_ofTargets hfound f (mem_stableSort.mp (mem_of_mem_dropRepeats hf))

end DotJs
