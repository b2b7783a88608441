import DotJs.Proofs.FoundFiles

/-!
# Walks below two places

Two places, in one file system or in two, can have the same below them. A walk asks the ignore files
of the directories on the way to each entry, from the root on. Where the directories above the two
places have no ignore files and are in no repository, it therefore comes to the same files in both.

* `Ignore.IsSilent` holds of directories without a say, and `Ignore.decisionBy_append` leaves a
  decision to the directories further in;
* `FileSystem.SameBelow` compares what is below two places; `FileSystem.sameBelow_of_eq` finds this
  out from lists of files and directories;
* `FileSystem.SameBelow.mem_walkedFiles_iff` is what follows for walks.
-/

namespace DotJs

variable {fs fs' : FileSystem} {l l' path : Location}

/-! ## Directories without a say -/

namespace Ignore

/-- Whether a directory has no say in what a walk looks at. A walk looks above the place where it
starts (`directoriesAbove`), so this is asked of the directories there. -/
structure IsSilent (fs : FileSystem) (directory : Location) : Prop where
  /-- it holds no ignore file that counts everywhere -/
  ownFile : fs.isFileAt (directory ++ ownFile) = false
  /-- and none that counts in repositories -/
  sharedFile : fs.isFileAt (directory ++ sharedFile) = false
  /-- it is not the root of a repository -/
  isRepository : isRepository fs directory = false

instance (fs : FileSystem) (directory : Location) : Decidable (IsSilent fs directory) :=
  decidable_of_iff
    (fs.isFileAt (directory ++ ownFile) = false ∧ fs.isFileAt (directory ++ sharedFile) = false ∧
      isRepository fs directory = false)
    ⟨fun h => ⟨h.1, h.2.1, h.2.2⟩, fun h => ⟨h.1, h.2, h.3⟩⟩

variable {ignoreFile directory : Location} {isDirectory : Bool}
  {directories outer : List (Location × Location)}

theorem linesAt_eq_nil (h : fs.isFileAt l = false) : linesAt fs l = [] := by
  have hnone : fs.contentAt? l = none := by
    rw [← Option.not_isSome_iff_eq_none, Bool.not_eq_true]
    exact h
  rw [linesAt, hnone]
  rfl

theorem IsSilent.linesAt_eq_nil (h : IsSilent fs directory) (hfile : ignoreFile ∈ ignoreFiles) :
    linesAt fs (directory ++ ignoreFile) = [] := by
  refine Ignore.linesAt_eq_nil ?_
  simp only [ignoreFiles, List.mem_cons, List.not_mem_nil, or_false] at hfile
  rcases hfile with rfl | rfl | rfl
  · exact h.ownFile
  · exact h.sharedFile
  · -- an exclude list is inside of a directory that makes a repository
    refine Bool.eq_false_iff.mpr fun hexclude => ?_
    have hinside : directory ++ excludeList =
        (directory ++ [".git".toList]) ++ ["info".toList, "exclude".toList] := by
      rw [List.append_assoc]
      rfl
    rw [hinside] at hexclude
    have hgit := FileSystem.isDirectory_of_isFileAt hexclude (List.cons_ne_nil _ _)
    have hrepository : Ignore.isRepository fs directory := by
      rw [Ignore.isRepository, FileSystem.isEntry, hgit]
      rfl
    rw [h.isRepository] at hrepository
    cases hrepository

theorem decisionIn_append :
    decisionIn fs ignoreFile isDirectory (directories ++ outer) =
      (decisionIn fs ignoreFile isDirectory directories).or
        (decisionIn fs ignoreFile isDirectory outer) := by
  induction directories with
  | nil => rfl
  | cons d rest ih =>
    obtain ⟨directory, path⟩ := d
    rw [List.cons_append, decisionIn, decisionIn, ih]
    cases decide? (Rule.ofLines (linesAt fs (directory ++ ignoreFile))) path isDirectory <;> rfl

theorem decisionIn_eq_none (houter : ∀ d ∈ outer, IsSilent fs d.1)
    (hfile : ignoreFile ∈ ignoreFiles) : decisionIn fs ignoreFile isDirectory outer = none := by
  induction outer with
  | nil => rfl
  | cons d rest ih =>
    obtain ⟨hd, hrest⟩ := List.forall_mem_cons.mp houter
    obtain ⟨directory, path⟩ := d
    rw [decisionIn, hd.linesAt_eq_nil hfile, ih hrest]
    rfl

theorem upTo_append {α : Type} {p : α → Bool} {as : List α} (h : as.any p) (bs : List α) :
    upTo p (as ++ bs) = upTo p as := by
  induction as with
  | nil => cases h
  | cons a as ih =>
    rw [List.cons_append, upTo, upTo]
    split
    · rfl
    · next ha =>
      rw [List.any_cons, Bool.or_eq_true] at h
      rw [ih (h.resolve_left ha)]

theorem upTo_map {α β : Type} (p : β → Bool) (f : α → β) (as : List α) :
    upTo p (as.map f) = (upTo (p ∘ f) as).map f := by
  induction as with
  | nil => rfl
  | cons a as ih =>
    rw [List.map_cons, upTo, upTo, ih, Function.comp_apply]
    split <;> rfl

/-- The directories up to the root of the repository (`isRepository`), or none outside of
repositories. The ignore files that repositories share count only in these. -/
def inRepository (fs : FileSystem) (directories : List (Location × Location)) :
    List (Location × Location) :=
  if directories.any (fun d => isRepository fs d.1) then
    upTo (fun d => isRepository fs d.1) directories
  else
    []

/-- What the ignore files of some directories say about a location, the innermost first. It is
`decision?` with the directories left open, so that the outer ones can be taken away. -/
def decisionBy (fs : FileSystem) (isDirectory : Bool) (directories : List (Location × Location)) :
    Option Decision :=
  (decisionIn fs ownFile isDirectory directories).or
    ((decisionIn fs sharedFile isDirectory (inRepository fs directories)).or
      (decisionIn fs excludeList isDirectory (inRepository fs directories)))

theorem decision?_eq (fs : FileSystem) (l : Location) :
    decision? fs l = decisionBy fs (fs.isDirectory l) (directoriesAbove l) := rfl

/-- Silent directories (`IsSilent`) decide nothing, and are not the root of a repository either. -/
theorem decisionBy_append (houter : ∀ d ∈ outer, IsSilent fs d.1) :
    decisionBy fs isDirectory (directories ++ outer) = decisionBy fs isDirectory directories := by
  have hrepository : outer.any (fun d => isRepository fs d.1) = false :=
    List.any_eq_false.mpr fun d hd => Bool.eq_false_iff.mp (houter d hd).isRepository
  have hin : inRepository fs (directories ++ outer) = inRepository fs directories := by
    rw [inRepository, inRepository, List.any_append, hrepository, Bool.or_false]
    split
    · next hany => exact upTo_append hany outer
    · rfl
  rw [decisionBy, decisionBy, hin, decisionIn_append, decisionIn_eq_none houter ownFile_mem,
    Option.or_none]

/-- A directory on the way from one location to another below it, `n` names down, with the path that
is left. It is named by a number, so that the ways in two places can be compared. -/
def wayDown (l path : Location) (n : Nat) : Location × Location := (l ++ path.take n, path.drop n)

/-- The directories above a location below `l` are those on the way from `l`, and those above
`l`. -/
theorem directoriesAbove_append (l path : Location) :
    directoriesAbove (l ++ path) =
      (List.range path.length).reverse.map (wayDown l path) ++
        (directoriesAbove l).map fun d => (d.1, d.2 ++ path) := by
  rw [directoriesAbove, directoriesAbove, List.length_append, List.range_add, List.reverse_append,
    List.map_append, ← List.map_reverse, List.map_map, List.map_map]
  congr 1
  · refine List.map_congr_left fun n _ => ?_
    rw [Function.comp_apply, wayDown, List.take_length_add_append, List.drop_length_add_append]
  · refine List.map_congr_left fun n hn => ?_
    have hn : n ≤ l.length := Nat.le_of_lt (List.mem_range.mp (List.mem_reverse.mp hn))
    rw [Function.comp_apply, List.take_append_of_le_length hn, List.drop_append_of_le_length hn]

/-- Below silent directories a decision is left to what is further in (`decisionBy`). -/
theorem decision?_append (h : ∀ n < l.length, IsSilent fs (l.take n)) (path : Location) :
    decision? fs (l ++ path) =
      decisionBy fs (fs.isDirectory (l ++ path))
        ((List.range path.length).reverse.map (wayDown l path)) := by
  rw [decision?_eq, directoriesAbove_append, decisionBy_append]
  intro d hd
  simp only [directoriesAbove, List.map_map, List.mem_map, List.mem_reverse, List.mem_range] at hd
  obtain ⟨n, hn, rfl⟩ := hd
  exact h n hn

/-- Silent directories have no lines that cannot be read, as they hold no ignore file. -/
theorem faultsAbove_eq_nil (h : ∀ n < l.length, IsSilent fs (l.take n)) :
    faultsAbove fs l = [] := by
  unfold faultsAbove
  refine List.flatMap_eq_nil_iff.mpr fun d hd =>
    List.flatMap_eq_nil_iff.mpr fun ignoreFile hfile => ?_
  simp only [directoriesAbove, List.mem_reverse, List.mem_map, List.mem_range] at hd
  obtain ⟨n, hn, rfl⟩ := hd
  rw [(h n hn).linesAt_eq_nil hfile]
  rfl

theorem isHidden_append (hne : path ≠ []) : isHidden (l ++ path) = isHidden path := by
  rw [isHidden, isHidden, List.getLast?_append, List.getLast?_eq_some_getLast hne]
  rfl

end Ignore

/-! ## Places with the same below them -/

/-- Whether the same is below two locations, in one file system or in two. Only what is there is
compared, and not in which order it is listed. -/
structure FileSystem.SameBelow (fs fs' : FileSystem) (l l' : Location) : Prop where
  /-- the same directories -/
  isDirectory : ∀ path, fs'.isDirectory (l' ++ path) = fs.isDirectory (l ++ path)
  /-- and the same files, which hold the same -/
  contentAt? : ∀ path, fs'.contentAt? (l' ++ path) = fs.contentAt? (l ++ path)

/-- What is left of a `Location` below another one, or nothing if it lies elsewhere. -/
def Location.below? : Location → Location → Option Location
  | [], k => some k
  | _ :: _, [] => none
  | a :: l, b :: k => if a = b then below? l k else none

theorem Location.below?_eq_some_iff {k : Location} : below? l k = some path ↔ k = l ++ path := by
  induction l generalizing k with
  | nil => exact ⟨fun h => Option.some.inj h, fun h => congrArg some h⟩
  | cons a l ih =>
    cases k with
    | nil => exact ⟨(nomatch ·), (nomatch ·)⟩
    | cons b k =>
      rw [below?, Option.ite_none_right_eq_some, ih, List.cons_append, List.cons.injEq, eq_comm]

theorem Location.isPrefixOf_append (l path k : Location) :
    (l ++ path).isPrefixOf k = (below? l k).any fun k => path.isPrefixOf k := by
  induction l generalizing k with
  | nil => rfl
  | cons a l ih =>
    cases k with
    | nil => rfl
    | cons b k =>
      rw [List.cons_append, List.isPrefixOf, ih, below?]
      by_cases hab : a = b
      · rw [if_pos hab, beq_iff_eq.mpr hab, Bool.true_and]
      · rw [if_neg hab, beq_eq_false_iff_ne.mpr hab]
        rfl

namespace FileSystem

theorem isAbove_append (l path k : Location) :
    isAbove (l ++ path) k = (Location.below? l k).any fun k => isAbove path k := by
  rw [isAbove, Location.isPrefixOf_append]
  cases hk : Location.below? l k with
  | none => rfl
  | some rest =>
    rw [Location.below?_eq_some_iff.mp hk]
    simp [isAbove]

/-- The `files` below a location, with what they hold, named as seen from there. -/
def filesIn (fs : FileSystem) (l : Location) : List (Location × Content) :=
  fs.files.filterMap fun f => (Location.below? l f.1).map fun path => (path, f.2)

/-- The `directories` below a location that are there even when empty. -/
def directoriesIn (fs : FileSystem) (l : Location) : List Location :=
  fs.directories.filterMap (Location.below? l)

theorem lookup_filesIn (fs : FileSystem) (l path : Location) :
    (fs.filesIn l).lookup path = fs.files.lookup (l ++ path) := by
  unfold filesIn
  induction fs.files with
  | nil => rfl
  | cons f rest ih =>
    obtain ⟨k, c⟩ := f
    rw [List.filterMap_cons, List.lookup_cons]
    cases hk : Location.below? l k with
    | none =>
      have hne : (l ++ path == k) = false := by
        refine beq_eq_false_iff_ne.mpr fun heq => ?_
        rw [Location.below?_eq_some_iff.mpr heq.symm] at hk
        cases hk
      rw [hne]
      exact ih
    | some p =>
      obtain rfl := Location.below?_eq_some_iff.mp hk
      have hbeq : (l ++ path == l ++ p) = (path == p) := by
        rw [Bool.eq_iff_iff, beq_iff_eq, beq_iff_eq, List.append_cancel_left_eq]
      rw [Option.map_some, List.lookup_cons, hbeq, ih]

theorem isDirectory_append (hl : l ≠ []) (path : Location) :
    fs.isDirectory (l ++ path) =
      ((fs.directoriesIn l).any (fun d => path.isPrefixOf d) ||
        (fs.filesIn l).any fun f => isAbove path f.1) := by
  have hroot : (l ++ path == []) = false :=
    beq_eq_false_iff_ne.mpr (List.append_ne_nil_of_left_ne_nil hl path)
  rw [isDirectory, hroot, Bool.false_or, directoriesIn, filesIn, List.any_filterMap,
    List.any_filterMap]
  simp only [Location.isPrefixOf_append, isAbove_append]
  congr 2
  funext f
  cases Location.below? l f.1 <;> rfl

/-- The same is below two locations when they hold the same files and directories. The lists can be
evaluated, while `SameBelow` is about all paths. -/
theorem sameBelow_of_eq (hl : l ≠ []) (hl' : l' ≠ []) (hfiles : fs'.filesIn l' = fs.filesIn l)
    (hdirectories : fs'.directoriesIn l' = fs.directoriesIn l) : fs.SameBelow fs' l l' where
  isDirectory path := by
    rw [isDirectory_append hl', isDirectory_append hl, hfiles, hdirectories]
  contentAt? path := by
    rw [contentAt?, contentAt?, isDirectory_append hl', isDirectory_append hl, hfiles, hdirectories,
      ← lookup_filesIn, ← lookup_filesIn, hfiles]

end FileSystem

namespace FileSystem.SameBelow

variable (h : fs.SameBelow fs' l l')

include h

theorem isFileAt (path : Location) : fs'.isFileAt (l' ++ path) = fs.isFileAt (l ++ path) := by
  rw [FileSystem.isFileAt, FileSystem.isFileAt, h.contentAt?]

theorem linesAt (path : Location) :
    Ignore.linesAt fs' (l' ++ path) = Ignore.linesAt fs (l ++ path) := by
  rw [Ignore.linesAt, Ignore.linesAt, h.contentAt?]

theorem isRepository (path : Location) (n : Nat) :
    Ignore.isRepository fs' (Ignore.wayDown l' path n).1 =
      Ignore.isRepository fs (Ignore.wayDown l path n).1 := by
  rw [Ignore.isRepository, Ignore.isRepository, Ignore.wayDown, Ignore.wayDown, List.append_assoc,
    List.append_assoc, isEntry, isEntry, h.isDirectory, h.isFileAt]

theorem decisionIn (ignoreFile : Location) (isDirectory : Bool) (path : Location) (ns : List Nat) :
    Ignore.decisionIn fs' ignoreFile isDirectory (ns.map (Ignore.wayDown l' path)) =
      Ignore.decisionIn fs ignoreFile isDirectory (ns.map (Ignore.wayDown l path)) := by
  induction ns with
  | nil => rfl
  | cons n ns ih =>
    simp only [List.map_cons, Ignore.wayDown, Ignore.decisionIn, List.append_assoc,
      h.linesAt] at ih ⊢
    rw [ih]

theorem inRepository (path : Location) (ns : List Nat) :
    ∃ ms : List Nat,
      Ignore.inRepository fs (ns.map (Ignore.wayDown l path)) = ms.map (Ignore.wayDown l path) ∧
      Ignore.inRepository fs' (ns.map (Ignore.wayDown l' path)) =
        ms.map (Ignore.wayDown l' path) := by
  simp only [Ignore.inRepository, List.any_map, Ignore.upTo_map, Function.comp_def, h.isRepository]
  split
  · exact ⟨_, rfl, rfl⟩
  · exact ⟨[], rfl, rfl⟩

theorem decisionBy (isDirectory : Bool) (path : Location) (ns : List Nat) :
    Ignore.decisionBy fs' isDirectory (ns.map (Ignore.wayDown l' path)) =
      Ignore.decisionBy fs isDirectory (ns.map (Ignore.wayDown l path)) := by
  obtain ⟨ms, hms, hms'⟩ := h.inRepository path ns
  simp only [Ignore.decisionBy, hms, hms', h.decisionIn]

variable (hsilent : ∀ n < l.length, Ignore.IsSilent fs (l.take n))
  (hsilent' : ∀ n < l'.length, Ignore.IsSilent fs' (l'.take n))

include hsilent hsilent'

theorem isLookedAt (hne : path ≠ []) :
    Ignore.isLookedAt fs' (l' ++ path) = Ignore.isLookedAt fs (l ++ path) := by
  rw [Ignore.isLookedAt, Ignore.isLookedAt, Ignore.decision?_append hsilent',
    Ignore.decision?_append hsilent, h.isDirectory, h.decisionBy, Ignore.isHidden_append hne,
    Ignore.isHidden_append hne]

/-- **Walks come to the same files** in two places with the same below them (`SameBelow`), where
nothing above has a say. -/
theorem mem_walkedFiles_iff : path ∈ fs'.walkedFiles l' ↔ path ∈ fs.walkedFiles l := by
  rw [FileSystem.mem_walkedFiles_iff, FileSystem.mem_walkedFiles_iff, h.isFileAt]
  refine and_congr_right fun hne => and_congr_right fun _ => forall₂_congr fun n _ => ?_
  rw [h.isLookedAt hsilent hsilent']
  obtain ⟨name, rest, rfl⟩ := List.exists_cons_of_ne_nil hne
  exact List.cons_ne_nil _ _

end FileSystem.SameBelow

end DotJs
