import DotJs.CommandLine.Run
import DotJs.Proofs.Rediscovery
import DotJs.Proofs.SecondPass

/-!
# Running twice

A run that writes is followed by one that only looks, with the same arguments. The second run
finds the same files. Whether there is anything to report is a question about each file alone:

* `FileSystem.IsStill` says that nothing in a file is to be rewritten;
* `FileSystem.Settles` says it of the file as the first run leaves it, in terms of the program that
  the file held before (`FileSystem.Handled.isStill_iff`).

Two paths can lead to one file, which is then dealt with twice. A file that is still stays so
(`FileSystem.IsStill.commit`), so that the second time does no harm.
-/

namespace DotJs

variable {fs fs' after : FileSystem} {rules : Rules} {mode : WriteMode} {path f : FilePath}
  {paths files : List FilePath}

namespace FileSystem

/-- Whether nothing in a file is to be rewritten. A file that cannot be read or is no program is
still, as its outcome has no `edits`. -/
def IsStill (fs : FileSystem) (rules : Rules) (path : FilePath) : Prop :=
  (FileOutcome.ofResult path (rewriteFile fs rules path)).edits = []

/-- Whether a file, if it is a program, is read as its rewritten program once it is rewritten, in
the sense of `Source.Rereads`. -/
def Rereads (fs : FileSystem) (rules : Rules) (path : FilePath) : Prop :=
  ∀ text ∈ (fs.read path).toOption, Source.Rereads rules (Language.ofPath path) text

/-- Whether a run that writes leaves nothing to do in a file, if it is a program, in the sense of
`Source.Settles`. -/
def Settles (fs : FileSystem) (rules : Rules) (path : FilePath) : Prop :=
  ∀ text ∈ (fs.read path).toOption, Source.Settles rules (Language.ofPath path) text

instance (fs : FileSystem) (rules : Rules) (path : FilePath) : Decidable (fs.Rereads rules path) :=
  inferInstanceAs (Decidable
    (∀ text ∈ (fs.read path).toOption, Source.Rereads rules (Language.ofPath path) text))

instance (fs : FileSystem) (rules : Rules) (path : FilePath) : Decidable (fs.Settles rules path) :=
  inferInstanceAs (Decidable
    (∀ text ∈ (fs.read path).toOption, Source.Settles rules (Language.ofPath path) text))

/-! ## Files that hold the same -/

theorem isStill_congr (h : fs'.read path = fs.read path) :
    fs'.IsStill rules path ↔ fs.IsStill rules path := by
  unfold IsStill
  rw [rewriteFile_congr h]

/-- All paths to a file tell the same of it, its language included (`FileSystem.ofPath_eq`). -/
theorem rewriteFile_eq_of_resolve {l : Location} (hl : fs.resolve path = .ok l)
    (hl' : fs.resolve f = .ok l) : rewriteFile fs rules f = rewriteFile fs rules path := by
  have hread : fs.read f = fs.read path := by
    simp only [read]
    rw [hl, hl']
  simp only [rewriteFile]
  rw [hread]
  cases hsource : fs.read path with
  | error fault => rfl
  | ok source =>
    obtain ⟨l', hl'', hc⟩ := read_eq_ok_iff.mp hsource
    obtain rfl : l = l' := Except.ok.inj (hl.symm.trans hl'')
    have hfile : fs.isFileAt l := by rw [isFileAt, hc, Option.isSome_some]
    rw [ofPath_eq hl hl' hfile]

theorem isStill_iff_of_resolve {l : Location} (hl : fs.resolve path = .ok l)
    (hl' : fs.resolve f = .ok l) : fs.IsStill rules f ↔ fs.IsStill rules path := by
  unfold IsStill
  rw [rewriteFile_eq_of_resolve hl hl']
  cases rewriteFile fs rules path <;> exact Iff.rfl

/-- A step that finds nothing to rewrite (`IsStill`) changes nothing. -/
theorem IsStill.commit_eq (h : fs.IsStill rules path) :
    fs.commit mode path (rewriteFile fs rules path) = fs := by
  simp only [IsStill, commit] at *
  cases hresult : rewriteFile fs rules path with
  | error fault => rfl
  | ok output =>
    rw [hresult] at h
    have hnil : output.edits = [] := h
    have hsame : output.isChanged = false := by rw [Output.isChanged, hnil]; rfl
    simp only [hsame, Bool.false_and, Bool.false_eq_true, if_false]

/-- Two paths lead to the same file, or a step about one leaves the other one's file alone. -/
theorem read_commit (fs : FileSystem) (rules : Rules) (mode : WriteMode) (path f : FilePath) :
    (∃ l, fs.resolve path = .ok l ∧ fs.resolve f = .ok l) ∨
      (fs.commit mode path (rewriteFile fs rules path)).read f = fs.read f := by
  by_cases hsame : ∃ l, fs.resolve path = .ok l ∧ fs.resolve f = .ok l
  · exact .inl hsame
  · refine .inr ((fs.commit_sameBesides mode path _).read fun p hp l hl hl' => hsame ⟨l, ?_, hl⟩)
    rw [← List.mem_singleton.mp hp]
    exact hl'

/-- **A file that is still stays so**, whatever path a step is about: the same file is not written,
and another one is none of its business. -/
theorem IsStill.commit (h : fs.IsStill rules f) (mode : WriteMode) (path : FilePath) :
    (fs.commit mode path (rewriteFile fs rules path)).IsStill rules f := by
  rcases fs.read_commit rules mode path f with ⟨l, hl, hl'⟩ | hread
  · -- the step is about this very file, and has nothing to do
    rw [((isStill_iff_of_resolve hl hl').mp h).commit_eq]
    exact h
  · exact (isStill_congr hread).mpr h

/-! ## What is left to do in a file -/

/-- A file is still after a run that writes just when it settles. `Handled` says what it holds then,
and `Source.rewriteSource_code_edits_eq_nil_iff` what is found in that. -/
theorem Handled.isStill_iff {o : FileOutcome} (h : fs.Handled after rules path o)
    (hresolve : ∀ p, after.resolve p = fs.resolve p) (hreads : fs.Rereads rules path) :
    after.IsStill rules path ↔ fs.Settles rules path := by
  unfold IsStill Settles rewriteFile
  cases h with
  | unreadable hread hkept =>
    rw [read_congr (hresolve path) hkept, hread]
    refine ⟨fun _ text htext => ?_, fun _ => rfl⟩
    cases htext
  | noProgram hread hparse hkept =>
    rw [read_congr (hresolve path) hkept, hread]
    dsimp only
    rw [rewriteSource_eq_none_iff.mpr hparse]
    refine ⟨fun _ text htext program hprogram => ?_, fun _ => rfl⟩
    rw [← Option.some.inj htext, hparse] at hprogram
    cases hprogram
  | @rewritten source output hread houtput hafter =>
    have hsource : source ∈ (fs.read path).toOption := by rw [hread]; rfl
    obtain ⟨again, hagain, hiff⟩ :=
      rewriteSource_code_edits_eq_nil_iff (hreads source hsource) houtput
    rw [hafter, hread]
    dsimp only
    rw [hagain]
    refine hiff.trans ⟨fun h text htext => ?_, fun h => h source rfl⟩
    rw [← Option.some.inj htext]
    exact h

/-- A step that may write leaves a file still just when it settles (`Settles`). -/
theorem isStill_commit_iff (hreads : fs.Rereads rules path) :
    (fs.commit .write path (rewriteFile fs rules path)).IsStill rules path ↔
      fs.Settles rules path :=
  (fs.commit_handled rules path).isStill_iff (fs.commit_sameBesides .write path _).resolve hreads

/-- Whether a file holds what it held before a run, or `IsStill`. It is what a run keeps up for each
of its files, also if two paths lead to one. -/
def IsKeptOrStill (before fs : FileSystem) (rules : Rules) (path : FilePath) : Prop :=
  fs.read path = before.read path ∨ fs.IsStill rules path

variable {before : FileSystem}

/-- The file that a step is about is still afterwards, if it settled before the run. -/
theorem IsKeptOrStill.isStill_commit (h : before.IsKeptOrStill fs rules path)
    (hreads : before.Rereads rules path) (hsettles : before.Settles rules path) :
    (fs.commit .write path (rewriteFile fs rules path)).IsStill rules path := by
  rcases h with hread | hstill
  · unfold Rereads at hreads
    unfold Settles at hsettles
    rw [← hread] at hreads hsettles
    exact (isStill_commit_iff hreads).mpr hsettles
  · exact hstill.commit .write path

/-- Other files stay kept or still (`IsKeptOrStill`) when the file that a step is about gets
still. -/
theorem IsKeptOrStill.commit (h : before.IsKeptOrStill fs rules f)
    (hpath : (fs.commit mode path (rewriteFile fs rules path)).IsStill rules path) :
    before.IsKeptOrStill (fs.commit mode path (rewriteFile fs rules path)) rules f := by
  rcases h with hread | hstill
  · rcases fs.read_commit rules mode path f with ⟨l, hl, hl'⟩ | hsame
    · have hresolve := (fs.commit_sameBesides mode path (rewriteFile fs rules path)).resolve
      rw [← hresolve] at hl hl'
      exact .inr ((isStill_iff_of_resolve hl hl').mpr hpath)
    · exact .inl (hsame.trans hread)
  · exact .inr (hstill.commit mode path)

end FileSystem

/-! ## A run that writes -/

/-- Files that are kept or still (`IsKeptOrStill`) at some point of a run are still at its end, if
it has yet to come to them or they are still already. The induction is on the files that are
left. -/
theorem processAll_isStill {before : FileSystem} (hreads : ∀ f ∈ files, before.Rereads rules f)
    (hsettles : ∀ f ∈ files, before.Settles rules f)
    (h : ∀ f ∈ files, before.IsKeptOrStill fs rules f) (f : FilePath)
    (hf : f ∈ files ∨ fs.IsStill rules f) :
    (processAll rules .write fs files).1.IsStill rules f := by
  induction files generalizing fs with
  | nil => exact hf.resolve_left List.not_mem_nil
  | cons path rest ih =>
    obtain ⟨hreadsPath, hreadsRest⟩ := List.forall_mem_cons.mp hreads
    obtain ⟨hsettlesPath, hsettlesRest⟩ := List.forall_mem_cons.mp hsettles
    obtain ⟨hpath, hrest⟩ := List.forall_mem_cons.mp h
    have hstill := hpath.isStill_commit hreadsPath hsettlesPath
    refine ih hreadsRest hsettlesRest (fun g hg => (hrest g hg).commit hstill) ?_
    rcases hf with hf | hf
    · rcases List.mem_cons.mp hf with rfl | hf
      · exact .inr hstill
      · exact .inl hf
    · exact .inr (hf.commit .write path)

/-! ## A run that only looks -/

theorem length_processAll (rules : Rules) (mode : WriteMode) (fs : FileSystem)
    (files : List FilePath) : (processAll rules mode fs files).2.length = files.length := by
  induction files generalizing fs with
  | nil => rfl
  | cons path rest ih =>
    rw [processAll, List.length_cons]
    exact congrArg (· + 1) (ih _)

/-- The reports of a `dryRun` are those on the files as they are. -/
theorem processAll_dryRun_outcomes (rules : Rules) (fs : FileSystem) (files : List FilePath) :
    (processAll rules .dryRun fs files).2 =
      files.map fun f => FileOutcome.ofResult f (rewriteFile fs rules f) := by
  induction files with
  | nil => rfl
  | cons path rest ih =>
    rw [processAll, FileSystem.commit_dryRun, List.map_cons]
    dsimp only
    rw [ih]

theorem FileOutcome.isChanged_iff {o : FileOutcome} : o.isChanged ↔ o.edits ≠ [] := by
  cases hedits : o.edits with
  | nil => simp [isChanged, hedits]
  | cons e es => simp [isChanged, hedits]

/-- The total of a summary is zero when no outcome has an edit. Only reported outcomes are summed
up, and those without edits add nothing. -/
theorem Summary.totalEdits_ofOutcomes_eq_zero_iff {outcomes : List FileOutcome} :
    (ofOutcomes outcomes).totalEdits = 0 ↔ ∀ o ∈ outcomes, o.edits = [] := by
  simp only [totalEdits, ofOutcomes, List.length_eq_zero_iff, List.flatMap_eq_nil_iff,
    List.mem_filter, mem_stableSort]
  constructor
  · intro h o ho
    -- an outcome with an edit is reported
    refine Decidable.byContradiction fun hne => hne (h o ⟨ho, ?_⟩)
    rw [FileOutcome.isChanged_iff.mpr hne]
    rfl
  · exact fun h o ho => h o ho.1

/-- A check fails with 1 because of changes (`exitCode`) just when there is an edit. A run with
failed files only has another exit code. -/
theorem CommandLine.exitCode_check_eq_one_iff {s : Summary} :
    exitCode .check s.stats = 1 ↔ s.totalEdits ≠ 0 := by
  have hchanged : s.changedFiles.length = 0 ↔ s.totalEdits = 0 := by
    simp only [Summary.changedFiles, Summary.totalEdits, List.length_eq_zero_iff,
      List.filter_eq_nil_iff, List.flatMap_eq_nil_iff, FileOutcome.isChanged_iff,
      ne_eq, Decidable.not_not]
  simp only [exitCode, Summary.stats, ne_eq, hchanged, true_and]
  by_cases hnone : s.totalEdits = 0
  · by_cases hfailed : s.failedFiles.length = 0 <;> simp [hnone, hfailed]
  · simp [hnone]

/-- **A run that writes leaves nothing to do** in files that settle. Let each file of the run, if
it is a program, be read as its rewritten program once it is rewritten (`FileSystem.Rereads`). Then
the second run finds the same files as the first, comes to its end about all of them, and changes
nothing. If all of these files settle (`FileSystem.Settles`: no specifier that gets an extension
asks for another one, and no node that is to be rewritten stands inside another such node), the
second run reports no edit, and a check does not fail because of changes. For files that lead to
different places, it reports no edit only then. The first run always has a result here because a
`FileSystem` takes all that is written to a file that is there; runs whose writes can fail are those
of `Course`. -/
theorem Project.run_twice {p : Project}
    (hfiles : discover fs p.settings p.root paths = .ok files)
    (hreads : ∀ f ∈ files, fs.Rereads p.rules f) :
    ∃ after first second, p.run fs paths .write = .ok (after, first) ∧
      discover after p.settings p.root paths = .ok files ∧
      p.run after paths .dryRun = .ok (after, second) ∧ second.scanned = first.scanned ∧
      ((∀ f ∈ files, fs.Settles p.rules f) → second.totalEdits = 0 ∧
        CommandLine.exitCode .check second.stats ≠ 1) ∧
      (fs.LeadApart files → second.totalEdits = 0 → ∀ f ∈ files, fs.Settles p.rules f) := by
  obtain ⟨after, hafter⟩ : ∃ after, after = (processAll p.rules .write fs files).1 := ⟨_, rfl⟩
  have hlisting : fs.SameListing after := by
    rw [hafter]
    exact processAll_sameListing (supports_of_discover hfiles) p.rules .write fs
  have hagain : discover after p.settings p.root paths = .ok files :=
    (hlisting.discover_eq p.settings p.root paths).trans hfiles
  let first := Summary.ofOutcomes (processAll p.rules .write fs files).2
  let second := Summary.ofOutcomes (processAll p.rules .dryRun after files).2
  have hfirst : p.run fs paths .write = .ok (after, first) := by
    simp only [run]
    rw [hfiles, hafter]
  have hsecond : p.run after paths .dryRun = .ok (after, second) := by
    simp only [run]
    rw [hagain]
    dsimp only
    rw [processAll_dryRun]
  have htotal : second.totalEdits = 0 ↔ ∀ f ∈ files, after.IsStill p.rules f := by
    rw [Summary.totalEdits_ofOutcomes_eq_zero_iff, processAll_dryRun_outcomes,
      List.forall_mem_map]
    rfl
  refine ⟨after, first, second, hfirst, hagain, hsecond, ?_, fun hsettles => ?_,
    fun hapart hnone => ?_⟩
  · exact (length_processAll _ _ _ files).trans (length_processAll _ _ _ files).symm
  · have hstill : ∀ f ∈ files, after.IsStill p.rules f := by
      rw [hafter]
      exact fun f hf => processAll_isStill hreads hsettles (fun f _ => .inl rfl) f (.inl hf)
    have hzero := htotal.mpr hstill
    exact ⟨hzero, fun hone => CommandLine.exitCode_check_eq_one_iff.mp hone hzero⟩
  · intro f hf
    have hhandled := processAll_handled p.rules hapart f hf
    rw [← hafter] at hhandled
    exact (hhandled.isStill_iff hlisting.resolve (hreads f hf)).mp (htotal.mp hnone f hf)

/-- A project whose files settle, one of them with a nested import that is no literal. -/
theorem Project.run_twice_settled :
    let fs : FileSystem :=
      ⟨[(["p", "a.ts"].map String.toList, .text "import './b'".toList),
        (["p", "b.ts"].map String.toList, .text "import('../c', import(d))".toList)], [], []⟩
    let p : Project := ⟨"/p".toList, .default, ⟨[], [], true⟩⟩
    let files := ["/p/a.ts", "/p/b.ts"].map String.toList
    discover fs p.settings p.root [] = .ok files ∧ (∀ f ∈ files, fs.Rereads p.rules f) ∧
      (∀ f ∈ files, fs.Settles p.rules f) ∧
      ∃ after first second, p.run fs [] .write = .ok (after, first) ∧ first.totalEdits = 2 ∧
        discover after p.settings p.root [] = .ok files ∧
        p.run after [] .dryRun = .ok (after, second) ∧ second.scanned = 2 ∧
        second.totalEdits = 0 ∧ CommandLine.exitCode .check second.stats ≠ 1 := by
  intro fs p files
  have hsome : (discover fs p.settings p.root []).toOption = some files := by decide +kernel
  have hfiles : discover fs p.settings p.root [] = .ok files := eq_ok_of_toOption hsome
  have hreads : ∀ f ∈ files, fs.Rereads p.rules f := by decide +kernel
  have hsettles : ∀ f ∈ files, fs.Settles p.rules f := by decide +kernel
  obtain ⟨after, first, second, hfirst, hagain, hsecond, hscanned, hstill, -⟩ :=
    Project.run_twice hfiles hreads
  have hresult : (p.run fs [] .write).toOption.map (fun r => (r.2.scanned, r.2.totalEdits)) =
      some (2, 2) := by decide +kernel
  rw [hfirst] at hresult
  obtain ⟨htwo, htotal⟩ := Prod.mk.inj (Option.some.inj hresult)
  obtain ⟨hzero, hexit⟩ := hstill hsettles
  exact ⟨hfiles, hreads, hsettles, after, first, second, hfirst, htotal, hagain, hsecond,
    hscanned.trans htwo, hzero, hexit⟩

/-- Files that do not settle, for each of the reasons: a relative specifier that ends with a slash,
a forced one that is forced with its extension too, and an import inside a rewritten one. -/
theorem Project.run_twice_unsettled :
    let fs : FileSystem :=
      ⟨[(["p", "a.ts"].map String.toList, .text "import './b/'".toList),
        (["p", "b.ts"].map String.toList, .text "import 'my-pkg'".toList),
        (["p", "c.ts"].map String.toList, .text "import('./a', import('./b'))".toList)], [], []⟩
    let settings := Settings.default.extend ["^my-pkg".toList] [] true
    ∃ p after first second, Project.ofSettings "/p".toList settings = .ok p ∧
      p.run fs [] .write = .ok (after, first) ∧ p.run after [] .dryRun = .ok (after, second) ∧
      second.changedFiles.map (·.path) = ["/p/a.ts", "/p/b.ts", "/p/c.ts"].map String.toList ∧
      second.totalEdits ≠ 0 ∧ CommandLine.exitCode .check second.stats = 1 := by
  intro fs settings
  have hresult : ((Project.ofSettings "/p".toList settings).toOption.bind fun p =>
      (p.run fs [] .write).toOption.bind fun r => (p.run r.1 [] .dryRun).toOption.map fun r' =>
        (decide (r'.1 = r.1), r'.2.changedFiles.map (·.path), r'.2.totalEdits,
          CommandLine.exitCode .check r'.2.stats)) =
      some (true, ["/p/a.ts", "/p/b.ts", "/p/c.ts"].map String.toList, 3, 1) := by decide +kernel
  obtain ⟨p, hproject, hresult⟩ := Option.bind_eq_some_iff.mp hresult
  obtain ⟨⟨after, first⟩, hfirst, hresult⟩ := Option.bind_eq_some_iff.mp hresult
  obtain ⟨⟨after', second⟩, hsecond, hresult⟩ := Option.map_eq_some_iff.mp hresult
  obtain ⟨hsame, hresult⟩ := Prod.mk.inj hresult
  obtain ⟨hpaths, hresult⟩ := Prod.mk.inj hresult
  obtain ⟨htotal, hexit⟩ := Prod.mk.inj hresult
  obtain rfl : after' = after := of_decide_eq_true hsame
  refine ⟨p, after', first, second, eq_ok_of_toOption hproject, eq_ok_of_toOption hfirst,
    eq_ok_of_toOption hsecond, hpaths, fun hzero => ?_, hexit⟩
  rw [htotal] at hzero
  cases hzero

end DotJs
