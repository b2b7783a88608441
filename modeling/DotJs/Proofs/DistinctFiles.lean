import DotJs.Proofs.FoundFiles
import Mathlib.Data.Set.List

/-!
# Whether files are dealt with once

Discovery lists no path twice, but a path is not a file: `..` leads back to where it came from, and
a file can be given by an absolute path and by a relative one. Which files are listed more than once
can be told from the texts of the paths, since each leads to its `FilePath.location`.

* `FilePath.components_eq_of_location_eq`: paths that have no `..` and open in the same way lead to
  the same location only if they are the same;
* `Discovery.Finds.exists_names` and `Discovery.Finds.notMem_parent`: a path that is found has from
  its target how it opens and whether there is a `..` in it.
-/

namespace DotJs

variable {fs : FileSystem} {s : Settings} {root target f g : FilePath}
  {paths files : List FilePath} {directory : Location}

/-! ## Paths without `..` -/

/-- Names lead on (`Location.advance`) from where they start, one level for each of them. -/
theorem Location.foldl_advance_names (names l : Location) :
    (names.map Component.name).foldl advance l = l ++ names := by
  induction names generalizing l with
  | nil => exact (List.append_nil l).symm
  | cons name rest ih =>
    rw [List.map_cons, List.foldl_cons, ih, advance, List.append_assoc]
    rfl

namespace FilePath

/-- Behind what opens a path without `..` there are only names. -/
theorem exists_names (h : .parent ∉ components f) :
    ∃ names : Location, components f = (opening? f).toList ++ names.map .name := by
  have hnames : (segments f).filterMap Component.ofSegment? ∈ Set.range (List.map .name) := by
    rw [Set.range_list_map]
    intro c hc
    obtain ⟨segment, -, hsegment⟩ := List.mem_filterMap.mp hc
    rcases Component.ofSegment?_cases segment with h' | h' | h'
    · exact nomatch h'.symm.trans hsegment
    · obtain rfl := Option.some.inj (h'.symm.trans hsegment)
      exact absurd (List.mem_append_right _ hc) h
    · exact ⟨segment, Option.some.inj (h'.symm.trans hsegment)⟩
  obtain ⟨names, hmap⟩ := hnames
  exact ⟨names, by rw [components, hmap]⟩

/-- **Paths without `..` that open in the same way lead apart**, unless they are the same. With `.`
and a name they may not: `./a` and `a` differ, and lead to one place. -/
theorem components_eq_of_location_eq (hf : .parent ∉ components f) (hg : .parent ∉ components g)
    (hopening : opening? f = opening? g) (h : location directory f = location directory g) :
    components f = components g := by
  obtain ⟨names, hnames⟩ := exists_names hf
  obtain ⟨names', hnames'⟩ := exists_names hg
  simp only [location, hnames, hnames', List.foldl_append, Location.foldl_advance_names,
    hopening] at h
  rw [hnames, hnames', hopening, List.append_cancel_left h]

end FilePath

/-! ## What targets contribute -/

namespace Discovery

/-- A file that is found is the target, or some names joined to it, and so opens like the target. -/
theorem Finds.exists_names (h : Finds fs s target f) (hnames : fs.WellNamed) :
    ∃ names : Location, FilePath.components f = FilePath.components target ++ names.map .name ∧
      FilePath.opening? f = FilePath.opening? target := by
  cases h with
  | itself => exact ⟨[], (List.append_nil _).symm, rfl⟩
  | below _ hreached hf =>
    rcases reached_eq_ok hreached with rfl | ⟨l, hl, -, rfl⟩
    · cases hf
    · obtain ⟨path, hpath, rfl⟩ := List.mem_map.mp hf
      obtain ⟨-, hthere, -⟩ := FileSystem.mem_walkedFiles_iff.mp hpath
      have htarget : target ≠ [] := by
        rintro rfl
        cases hl
      have hnames := hnames.isName hthere
      exact ⟨path, FilePath.components_foldl_join htarget hnames,
        FilePath.opening?_foldl_join htarget hnames⟩

/-- There is a `..` in a path that is found only if there is one in the target. -/
theorem Finds.notMem_parent (h : Finds fs s target f) (hnames : fs.WellNamed)
    (htarget : .parent ∉ FilePath.components target) : .parent ∉ FilePath.components f := by
  obtain ⟨names, hcomponents, -⟩ := h.exists_names hnames
  rw [hcomponents, List.mem_append]
  rintro (hmem | hmem)
  · exact htarget hmem
  · obtain ⟨name, -, hname⟩ := List.mem_map.mp hmem
    cases hname

end Discovery

/-! ## What is listed -/

theorem FileSystem.resolve_eq_location_of_isFile (h : fs.isFile f) :
    fs.resolve f = .ok (FilePath.location fs.current f) := by
  unfold isFile at h
  cases hl : fs.resolve f with
  | error fault =>
    rw [hl] at h
    cases h
  | ok l => rw [eq_location_of_resolve hl]

/-- Paths to files lead apart just when their texts say so, by `FilePath.location`. -/
theorem FileSystem.leadApart_iff_nodup_location (h : ∀ f ∈ files, fs.isFile f) :
    fs.LeadApart files ↔ (files.map (FilePath.location fs.current)).Nodup := by
  unfold LeadApart List.Nodup
  rw [List.pairwise_map]
  refine List.Pairwise.iff_of_mem fun {a b} ha hb => ?_
  rw [resolve_eq_location_of_isFile (h a ha), resolve_eq_location_of_isFile (h b hb)]
  simp [eq_comm]

/-- **When files are dealt with once.** Every path that is listed leads to the file that its text
says (`FilePath.location`), and no path is listed twice. So no file is dealt with twice
(`LeadApart`) just when these files are all different. They are if no target has a `..` in it and
all targets open in the same way (`opening?`): with the root, with a `.`, or with a name. -/
theorem discover_leadApart_iff (hnames : fs.WellNamed)
    (h : discover fs s root paths = .ok files) :
    (∀ f ∈ files, fs.isFile f ∧ fs.resolve f = .ok (FilePath.location fs.current f)) ∧
    files.Pairwise (fun f g => FilePath.same f g = false) ∧
    (fs.LeadApart files ↔ (files.map (FilePath.location fs.current)).Nodup) ∧
    ((∀ t ∈ Discovery.targets root paths, .parent ∉ FilePath.components t) →
      (∀ t ∈ Discovery.targets root paths, ∀ t' ∈ Discovery.targets root paths,
        FilePath.opening? t = FilePath.opening? t') →
      fs.LeadApart files) := by
  have hfile : ∀ f ∈ files, fs.isFile f := by
    intro f hf
    obtain ⟨target, -, hfinds⟩ := finds_of_mem_discover h hf
    exact hfinds.isFile hnames
  have hdifferent : files.Pairwise fun f g => FilePath.same f g = false := by
    refine (discover_pairwise h).imp fun {f g} hlt => Bool.eq_false_iff.mpr fun hsame => ?_
    rw [FilePath.compare_eq_eq_iff.mpr hsame] at hlt
    cases hlt
  have hiff := FileSystem.leadApart_iff_nodup_location hfile
  refine ⟨fun f hf => ⟨hfile f hf, FileSystem.resolve_eq_location_of_isFile (hfile f hf)⟩,
    hdifferent, hiff, fun hparent hopening => hiff.mpr ?_⟩
  refine List.pairwise_map.mpr (hdifferent.imp_of_mem fun {f g} hf hg hne hlocation => ?_)
  obtain ⟨t, ht, hfinds⟩ := finds_of_mem_discover h hf
  obtain ⟨t', ht', hfinds'⟩ := finds_of_mem_discover h hg
  obtain ⟨-, -, hopens⟩ := hfinds.exists_names hnames
  obtain ⟨-, -, hopens'⟩ := hfinds'.exists_names hnames
  have hsame := FilePath.components_eq_of_location_eq
    (hfinds.notMem_parent hnames (hparent t ht)) (hfinds'.notMem_parent hnames (hparent t' ht'))
    (hopens.trans ((hopening t ht t' ht').trans hopens'.symm)) hlocation
  exact nomatch (FilePath.same_iff.mpr hsame).symm.trans hne

/-- A directory, a file in it that is given in two ways, and the directory above. -/
theorem discover_leadApart_iff_overlapping :
    let fs : FileSystem :=
      ⟨[(["p", "src", "b.ts"].map String.toList, .text []),
        (["p", "a.ts"].map String.toList, .text [])], [], ["q".toList]⟩
    let paths := ["src", "./src//b.ts", ".", "/p/a.ts"].map String.toList
    ∃ files, fs.WellNamed ∧ discover fs .default "/p".toList paths = .ok files ∧
      files.length = 2 ∧ (files.map (FilePath.location fs.current)).Nodup ∧
      fs.LeadApart files := by
  intro fs paths
  have hnames : fs.WellNamed := by decide
  have hlength : (discover fs .default "/p".toList paths).toOption.map List.length = some 2 := by
    decide +kernel
  obtain ⟨files, hfound, htwo⟩ := Option.map_eq_some_iff.mp hlength
  have hfiles := eq_ok_of_toOption hfound
  obtain ⟨-, -, hiff, hapart⟩ := discover_leadApart_iff hnames hfiles
  have hleadApart := hapart (by decide +kernel) (by decide +kernel)
  exact ⟨files, hnames, hfiles, htwo, hiff.mp hleadApart, hleadApart⟩

/-- **A file can be dealt with twice**: here it is given by its name and by a path through another
directory. It is counted twice, and a run that writes gives its specifier two extensions. -/
theorem discover_lists_file_twice :
    let fs : FileSystem :=
      ⟨[(["p", "a.ts"].map String.toList, .text "import './b/'".toList)],
        [["p", "src"].map String.toList], []⟩
    let p : Project := ⟨"/p".toList, .default, ⟨[], [], false⟩⟩
    let paths := ["a.ts", "src/../a.ts"].map String.toList
    let files := ["/p/a.ts", "/p/src/../a.ts"].map String.toList
    discover fs p.settings p.root paths = .ok files ∧
      (∀ f ∈ files, fs.resolve f = .ok (["p", "a.ts"].map String.toList)) ∧
      ¬ fs.LeadApart files ∧
      ∃ after summary, p.run fs paths .write = .ok (after, summary) ∧ summary.scanned = 2 ∧
        summary.totalEdits = 2 ∧
        after.read "/p/a.ts".toList = .ok "import './b/.js.js'".toList := by
  intro fs p paths files
  have hfiles : discover fs p.settings p.root paths = .ok files :=
    eq_ok_of_toOption (by decide +kernel)
  have hplace : ∀ f ∈ files, fs.resolve f = .ok (["p", "a.ts"].map String.toList) := by
    have hsome : ∀ f ∈ files, (fs.resolve f).toOption = some (["p", "a.ts"].map String.toList) := by
      decide +kernel
    exact fun f hf => eq_ok_of_toOption (hsome f hf)
  have hresult : (p.run fs paths .write).toOption.map (fun r =>
      (r.2.scanned, r.2.totalEdits, (r.1.read "/p/a.ts".toList).toOption)) =
      some (2, 2, some "import './b/.js.js'".toList) := by decide +kernel
  obtain ⟨⟨after, summary⟩, hrun, hpair⟩ := Option.map_eq_some_iff.mp hresult
  obtain ⟨hscanned, hpair⟩ := Prod.mk.inj hpair
  obtain ⟨htotal, hread⟩ := Prod.mk.inj hpair
  refine ⟨hfiles, hplace, fun hapart => ?_, after, summary, eq_ok_of_toOption hrun, hscanned,
    htotal, eq_ok_of_toOption hread⟩
  obtain ⟨hne, -⟩ := List.pairwise_cons.mp hapart
  exact hne _ (List.mem_singleton_self _) _ (hplace _ (.head _)) (hplace _ (.tail _ (.head _)))

end DotJs
