import DotJs.CommandLine.Run
import DotJs.Proofs.BatchRun

/-!
# What a check tells of a run that writes

A check goes through the same files as a run that writes and rewrites the same texts, but writes
none. Where the files lie apart, what it reports is therefore what the other run would do.

* `rewriteSource_isChanged_iff`: a file counts as changed just when it gets another text, and
  `processAll_changes_iff` says so of all files;
* `FileOutcome.isFailed_iff`: a file counts as failed just when it holds no program;
* `CommandLine.perform_eq_ok` tells all that a request to rewrite comes to.

`CommandLine.check_predicts_write` compares the two runs.
-/

namespace DotJs

variable {fs after : FileSystem} {rules : Rules} {path f : FilePath} {paths files : List FilePath}

/-! ## One file -/

/-- Whether a file can be read and is a program, of the language that its path shows
(`Language.ofPath`). -/
def FileSystem.HoldsProgram (fs : FileSystem) (path : FilePath) : Prop :=
  ∃ source, fs.read path = .ok source ∧ (Source.parse (Language.ofPath path) source).isSome

/-- A result counts as changed just when its text differs from the source. `isChanged` itself looks
at the edits. -/
theorem rewriteSource_isChanged_iff {language : Language} {source : Text} {output : Output}
    (h : rewriteSource rules language source = some output) :
    output.isChanged ↔ output.code ≠ source := by
  constructor
  · intro hchanged hsame
    have hsize := rewriteSource_size h
    rw [hsame] at hsize
    have hnil : output.edits = [] := List.eq_nil_of_length_eq_zero (by omega)
    rw [Output.isChanged, hnil] at hchanged
    cases hchanged
  · intro hne
    by_cases hchanged : output.isChanged
    · exact hchanged
    · exact absurd (rewriteSource_code_eq h (Bool.eq_false_iff.mpr hchanged)) hne

/-- A file counts as failed just when it holds no program, as `FileSystem.HoldsProgram` says it. -/
theorem FileOutcome.isFailed_iff :
    (FileOutcome.ofResult path (rewriteFile fs rules path)).isFailed ↔ ¬ fs.HoldsProgram path := by
  rcases rewriteFile_cases fs rules path with ⟨fault, hread, h⟩ | ⟨source, hread, hparse, h⟩ |
    ⟨source, output, hread, houtput, h⟩
  · rw [h]
    refine ⟨fun _ ⟨_, hsource, _⟩ => ?_, fun _ => rfl⟩
    exact nomatch hread.symm.trans hsource
  · rw [h]
    refine ⟨fun _ ⟨_, hsource, hprogram⟩ => ?_, fun _ => rfl⟩
    obtain rfl := Except.ok.inj (hread.symm.trans hsource)
    rw [hparse] at hprogram
    cases hprogram
  · rw [h]
    refine ⟨(nomatch ·), fun hnot => absurd ⟨source, hread, ?_⟩ hnot⟩
    refine Option.isSome_iff_ne_none.mpr fun hparse => ?_
    rw [rewriteSource_eq_none_iff.mpr hparse] at houtput
    cases houtput

/-- A file that was `Handled` is reported as changed just when it holds something else
afterwards. -/
theorem FileSystem.Handled.isChanged_iff {o : FileOutcome} (h : fs.Handled after rules path o)
    (hresolve : ∀ p, after.resolve p = fs.resolve p) :
    o.isChanged ↔ ∃ l, fs.resolve path = .ok l ∧ after.contentAt? l ≠ fs.contentAt? l := by
  cases h with
  | unreadable _ hkept => exact ⟨(nomatch ·), fun ⟨l, hl, hne⟩ => absurd (hkept l hl) hne⟩
  | noProgram _ _ hkept => exact ⟨(nomatch ·), fun ⟨l, hl, hne⟩ => absurd (hkept l hl) hne⟩
  | @rewritten source output hread houtput hafter =>
    obtain ⟨l, hl, hcontent⟩ := read_eq_ok_iff.mp hread
    obtain ⟨l', hl', hcontent'⟩ := read_eq_ok_iff.mp hafter
    obtain rfl := Except.ok.inj (hl.symm.trans ((hresolve path).symm.trans hl'))
    have hiff : output.isChanged ↔ after.contentAt? l ≠ fs.contentAt? l := by
      rw [rewriteSource_isChanged_iff houtput, hcontent, hcontent']
      simp
    constructor
    · exact fun hchanged => ⟨l, hl, hiff.mp hchanged⟩
    · rintro ⟨k, hk, hne⟩
      obtain rfl := Except.ok.inj (hl.symm.trans hk)
      exact hiff.mpr hne

/-! ## All files -/

/-- A run that writes changes something just when one of its files is reported as changed. As the
files lead apart, what the step about a file writes is what the run leaves there. -/
theorem processAll_changes_iff (rules : Rules) (h : fs.LeadApart files) :
    (∃ l, (processAll rules .write fs files).1.contentAt? l ≠ fs.contentAt? l) ↔
      ∃ f ∈ files, (FileOutcome.ofResult f (rewriteFile fs rules f)).isChanged := by
  have hsame := processAll_sameBesides rules .write fs files
  have hchanged : ∀ f ∈ files, _ := fun f hf =>
    (processAll_handled rules h f hf).isChanged_iff hsame.resolve
  constructor
  · rintro ⟨l, hl⟩
    -- what changes is a file that some path leads to
    obtain ⟨f, hf, hpath⟩ : ∃ f ∈ files, fs.resolve f = .ok l :=
      Classical.byContradiction fun hnone =>
        hl (hsame.contentAt? l fun f hf hpath => hnone ⟨f, hf, hpath⟩)
    exact ⟨f, hf, (hchanged f hf).mpr ⟨l, hpath, hl⟩⟩
  · rintro ⟨f, hf, ho⟩
    obtain ⟨l, -, hl⟩ := (hchanged f hf).mp ho
    exact ⟨l, hl⟩

namespace Summary

variable {outcome : FilePath → FileOutcome}

/-- Files that are changed or failed are counted, whichever of them are asked for by `q`. -/
theorem length_filter_files_ne_zero_iff {q : FileOutcome → Bool}
    (hq : ∀ o, q o → o.isChanged || o.isFailed) :
    ((ofOutcomes (files.map outcome)).files.filter q).length ≠ 0 ↔
      ∃ f ∈ files, q (outcome f) := by
  rw [ne_eq, List.length_eq_zero_iff, ← ne_eq]
  constructor
  · intro hne
    obtain ⟨o, ho⟩ := List.exists_mem_of_ne_nil _ hne
    obtain ⟨hfile, hqo⟩ := List.mem_filter.mp ho
    obtain ⟨f, hf, rfl⟩ := List.mem_map.mp (mem_stableSort.mp (List.mem_filter.mp hfile).1)
    exact ⟨f, hf, hqo⟩
  · rintro ⟨f, hf, hqo⟩
    have hfile : outcome f ∈ (ofOutcomes (files.map outcome)).files :=
      List.mem_filter.mpr ⟨mem_stableSort.mpr (List.mem_map_of_mem hf), hq _ hqo⟩
    exact List.ne_nil_of_mem (List.mem_filter.mpr ⟨hfile, hqo⟩)

theorem changedFiles_ne_zero_iff :
    (ofOutcomes (files.map outcome)).stats.changedFiles ≠ 0 ↔
      ∃ f ∈ files, (outcome f).isChanged :=
  length_filter_files_ne_zero_iff fun _ ho => by rw [ho, Bool.true_or]

theorem failedFiles_ne_zero_iff :
    (ofOutcomes (files.map outcome)).stats.failedFiles ≠ 0 ↔ ∃ f ∈ files, (outcome f).isFailed :=
  length_filter_files_ne_zero_iff fun _ ho => by rw [ho, Bool.or_true]

end Summary

namespace Project

variable {p : Project}

/-- The `Summary` about some files as they are. It knows neither of a mode nor of the order of
steps. -/
def summaryOn (p : Project) (fs : FileSystem) (files : List FilePath) : Summary :=
  Summary.ofOutcomes (files.map fun f => FileOutcome.ofResult f (rewriteFile fs p.rules f))

/-- A run whose files lead apart has the summary about the files as they are (`summaryOn`), whatever
the run may do. -/
theorem run_eq_ok (hfiles : discover fs p.settings p.root paths = .ok files)
    (hapart : fs.LeadApart files) (mode : WriteMode) :
    p.run fs paths mode = .ok ((processAll p.rules mode fs files).1, p.summaryOn fs files) := by
  rw [run, hfiles]
  dsimp only
  rw [processAll_outcomes p.rules mode hapart, summaryOn]

/-- The summary tells whether a run that writes changes anything. -/
theorem changedFiles_summaryOn_ne_zero_iff (p : Project) (hapart : fs.LeadApart files) :
    (p.summaryOn fs files).stats.changedFiles ≠ 0 ↔
      ∃ l, (processAll p.rules .write fs files).1.contentAt? l ≠ fs.contentAt? l := by
  rw [processAll_changes_iff p.rules hapart, summaryOn, Summary.changedFiles_ne_zero_iff]

/-- The summary tells whether there is a file that holds no program. -/
theorem failedFiles_summaryOn_ne_zero_iff (p : Project) (fs : FileSystem)
    (files : List FilePath) :
    (p.summaryOn fs files).stats.failedFiles ≠ 0 ↔ ∃ f ∈ files, ¬ fs.HoldsProgram f := by
  rw [summaryOn, Summary.failedFiles_ne_zero_iff]
  simp only [FileOutcome.isFailed_iff]

end Project

/-! ## Requests -/

namespace CommandLine

variable {r : Request} {purpose : Purpose} {result checked written : Result}

namespace Request

/-- A request to rewrite files, with the options of another one, so that two requests can differ in
their `Purpose` only. -/
def rewriting (r : Request) (paths : List FilePath) (purpose : Purpose) : Request :=
  { r with command := .rewrite paths purpose }

/-- The root of the project that a request is about: the one given, or the current directory. -/
def projectRoot (fs : FileSystem) (r : Request) : FilePath := r.root.getD (Location.path fs.current)

/-- The project that a request is about. `perform` gets to it in two steps, each with its own
fault. -/
def project (fs : FileSystem) (r : Request) : Except FatalError Project :=
  match loadSettings fs (r.projectRoot fs) r.rules with
  | .error e => .error e
  | .ok settings =>
    match Project.ofSettings (r.projectRoot fs) settings with
    | .error pattern => .error (.invalidPattern pattern)
    | .ok project => .ok project

/-- **What a request leaves behind does not depend on whether it is quiet**, but for the lines on
the standard error output. -/
theorem run_quiet (fs : FileSystem) (r : Request) (quiet : Bool) :
    (run fs { r with quiet }).exit = (run fs r).exit ∧
      (run fs { r with quiet }).output = (run fs r).output ∧
      (run fs { r with quiet }).files = (run fs r).files := by
  unfold run perform
  dsimp only
  cases ReportFormat.ofName? r.format with
  | none => exact ⟨rfl, rfl, rfl⟩
  | some format =>
    cases r.command with
    | explain specifier => exact ⟨rfl, rfl, rfl⟩
    | rewrite paths purpose =>
      dsimp only [rewrite]
      cases loadSettings fs (r.root.getD (Location.path fs.current)) r.rules with
      | error e => exact ⟨rfl, rfl, rfl⟩
      | ok settings =>
        dsimp only
        cases Project.ofSettings (r.root.getD (Location.path fs.current)) settings with
        | error pattern => exact ⟨rfl, rfl, rfl⟩
        | ok p =>
          dsimp only
          cases p.run fs paths purpose.mode <;> exact ⟨rfl, rfl, rfl⟩

end Request

/-- A request to rewrite (`perform`), one step after the other: the format, the project, the run. -/
theorem perform_rewriting (fs : FileSystem) (r : Request) (paths : List FilePath)
    (purpose : Purpose) :
    perform fs (r.rewriting paths purpose) =
      match ReportFormat.ofName? r.format with
      | none => .error (.unknownFormat r.format)
      | some format =>
        match r.project fs with
        | .error e => .error e
        | .ok p =>
          match p.run fs paths purpose.mode with
          | .error fault => .error (.walk fault)
          | .ok (after, summary) =>
            .ok
              { exit := exitCode purpose summary.stats
                output := printed (summary.text format (r.projectRoot fs))
                messages := if r.quiet then [] else statusLines purpose summary.stats
                files := after } := by
  unfold perform Request.project
  dsimp only [Request.rewriting]
  cases ReportFormat.ofName? r.format with
  | none => rfl
  | some format =>
    dsimp only [rewrite, Request.projectRoot]
    cases loadSettings fs (r.root.getD (Location.path fs.current)) r.rules with
    | error e => rfl
    | ok settings =>
      dsimp only
      cases Project.ofSettings (r.root.getD (Location.path fs.current)) settings with
      | error pattern => rfl
      | ok p => rfl

/-- **What a request to rewrite comes to**, if it comes to its end. Later proofs take its parts from
here and do not unfold `perform`. -/
theorem perform_eq_ok (h : perform fs (r.rewriting paths purpose) = .ok result) :
    ∃ format p after summary, ReportFormat.ofName? r.format = some format ∧
      r.project fs = .ok p ∧ p.run fs paths purpose.mode = .ok (after, summary) ∧
      result =
        { exit := exitCode purpose summary.stats
          output := printed (summary.text format (r.projectRoot fs))
          messages := if r.quiet then [] else statusLines purpose summary.stats
          files := after } := by
  rw [perform_rewriting] at h
  split at h
  · cases h
  · next format hformat =>
    split at h
    · cases h
    · next p hproject =>
      split at h
      · cases h
      · next after summary hrun =>
        exact ⟨format, p, after, summary, hformat, hproject, hrun, (Except.ok.inj h).symm⟩

/-- Changes come before failures in the exit code of a check, so a check with both fails with 1. -/
theorem exitCode_check (s : Stats) :
    (exitCode .check s = 1 ↔ s.changedFiles ≠ 0) ∧
      (exitCode .check s ≠ 1 → (exitCode .check s = 2 ↔ s.failedFiles ≠ 0)) ∧
      (exitCode .check s ≠ 1 → exitCode .check s ≠ 2 → exitCode .check s = 0) := by
  unfold exitCode
  by_cases hchanged : s.changedFiles = 0 <;> by_cases hfailed : s.failedFiles = 0 <;>
    simp [hchanged, hfailed]

theorem exitCode_write (s : Stats) :
    (exitCode .write s = 2 ↔ s.failedFiles ≠ 0) ∧
      (exitCode .write s ≠ 2 → exitCode .write s = 0) := by
  unfold exitCode
  by_cases hfailed : s.failedFiles = 0 <;> simp [hfailed]

/-- **A check predicts a run that writes.** Let a check and a run that writes, with the same options
otherwise, both come to their end, about files that lead to different places (`LeadApart`). The
check changes nothing. It fails with 1 just when the other run changes what some file holds; if not,
it fails with 2 just when one of the files cannot be read or is no program (`HoldsProgram`), and
does not fail otherwise. The run that writes fails with 2 for such a file, and does not fail
otherwise. Both print the same. Whether a request is quiet does not matter to what is printed, to
the exit code and to the files. -/
theorem check_predicts_write (hcheck : perform fs (r.rewriting paths .check) = .ok checked)
    (hwrite : perform fs (r.rewriting paths .write) = .ok written)
    (hapart : ∀ p files, r.project fs = .ok p →
      discover fs p.settings p.root paths = .ok files → fs.LeadApart files) :
    ∃ p files, r.project fs = .ok p ∧ discover fs p.settings p.root paths = .ok files ∧
      checked.files = fs ∧
      (checked.exit = 1 ↔ ∃ l, written.files.contentAt? l ≠ fs.contentAt? l) ∧
      (checked.exit ≠ 1 → (checked.exit = 2 ↔ ∃ f ∈ files, ¬ fs.HoldsProgram f)) ∧
      (checked.exit ≠ 1 → checked.exit ≠ 2 → checked.exit = 0) ∧
      (written.exit = 2 ↔ ∃ f ∈ files, ¬ fs.HoldsProgram f) ∧
      (written.exit ≠ 2 → written.exit = 0) ∧
      checked.output = written.output ∧
      ∀ purpose quiet,
        let request := r.rewriting paths purpose
        (Request.run fs { request with quiet }).exit = (Request.run fs request).exit ∧
          (Request.run fs { request with quiet }).output = (Request.run fs request).output ∧
          (Request.run fs { request with quiet }).files = (Request.run fs request).files := by
  obtain ⟨format, p, after, summary, hformat, hproject, hrun, rfl⟩ := perform_eq_ok hcheck
  obtain ⟨format', p', after', summary', hformat', hproject', hrun', rfl⟩ := perform_eq_ok hwrite
  obtain rfl := Option.some.inj (hformat.symm.trans hformat')
  obtain rfl := Except.ok.inj (hproject.symm.trans hproject')
  obtain ⟨files, hfiles⟩ : ∃ files, discover fs p.settings p.root paths = .ok files := by
    cases hfiles : discover fs p.settings p.root paths with
    | ok files => exact ⟨files, rfl⟩
    | error fault =>
      rw [Project.run, hfiles] at hrun
      cases hrun
  have hapart := hapart p files hproject hfiles
  -- both runs have the same summary, and what it says is the same as what happens
  obtain ⟨rfl, rfl⟩ := Prod.mk.inj (Except.ok.inj
    (hrun.symm.trans (Project.run_eq_ok hfiles hapart _)))
  obtain ⟨rfl, rfl⟩ := Prod.mk.inj (Except.ok.inj
    (hrun'.symm.trans (Project.run_eq_ok hfiles hapart _)))
  have hchanged := Project.changedFiles_summaryOn_ne_zero_iff p hapart
  have hfailed := Project.failedFiles_summaryOn_ne_zero_iff p fs files
  obtain ⟨hone, htwo, hzero⟩ := exitCode_check (p.summaryOn fs files).stats
  obtain ⟨htwo', hzero'⟩ := exitCode_write (p.summaryOn fs files).stats
  exact ⟨p, files, hproject, hfiles, processAll_dryRun _ _ _, hone.trans hchanged,
    fun hne => (htwo hne).trans hfailed, hzero, htwo'.trans hfailed, hzero', rfl,
    fun purpose quiet => Request.run_quiet fs (r.rewriting paths purpose) quiet⟩

/-- A project with a file to rewrite, one that needs nothing and one that is no text. -/
theorem check_predicts_write_mixed :
    let fs : FileSystem :=
      ⟨[(["p", "a.ts"].map String.toList, .text "import './b'".toList),
        (["p", "b.ts"].map String.toList, .text "let x = 1".toList),
        (["p", "c.ts"].map String.toList, .binary [255])], [], ["p".toList]⟩
    let r : Request := ⟨.explain [], none, "List".toList, ⟨[], [], false⟩, false⟩
    ∃ checked written, perform fs (r.rewriting [] .check) = .ok checked ∧
      perform fs (r.rewriting [] .write) = .ok written ∧
      checked.exit = 1 ∧ written.exit = 2 ∧ checked.files = fs ∧
      (∃ l, written.files.contentAt? l ≠ fs.contentAt? l) ∧
      (∃ f, ¬ fs.HoldsProgram f) ∧
      checked.output = written.output ∧
      written.output = ("a.ts:1:8 './b' -> './b.js'\n" ++
        "c.ts: error: Failed to read file: stream did not contain valid UTF-8\n").toList := by
  intro fs r
  let p : Project := ⟨"/p".toList, .default, ⟨[], [], false⟩⟩
  let files := ["/p/a.ts", "/p/b.ts", "/p/c.ts"].map String.toList
  have hproject : r.project fs = .ok p := eq_ok_of_toOption (by decide +kernel)
  have hfiles : discover fs p.settings p.root [] = .ok files :=
    eq_ok_of_toOption (by decide +kernel)
  have hapart : fs.LeadApart files := FileSystem.leadApart_of_nodup (by decide +kernel)
  have hchecked : (perform fs (r.rewriting [] .check)).toOption.map (·.exit) = some 1 := by
    decide +kernel
  have hwritten : (perform fs (r.rewriting [] .write)).toOption.map (fun w => (w.exit, w.output)) =
      some (2, ("a.ts:1:8 './b' -> './b.js'\n" ++
        "c.ts: error: Failed to read file: stream did not contain valid UTF-8\n").toList) := by
    decide +kernel
  obtain ⟨checked, hcheck, hone⟩ := Option.map_eq_some_iff.mp hchecked
  obtain ⟨written, hwrite, hpair⟩ := Option.map_eq_some_iff.mp hwritten
  obtain ⟨htwo, houtput⟩ := Prod.mk.inj hpair
  have hcheck := eq_ok_of_toOption hcheck
  have hwrite := eq_ok_of_toOption hwrite
  obtain ⟨p', files', -, -, hkept, hchanges, -, -, hfails, -, hsame, -⟩ :=
    check_predicts_write hcheck hwrite fun p' files' hp' hfiles' => by
      obtain rfl := Except.ok.inj (hproject.symm.trans hp')
      obtain rfl := Except.ok.inj (hfiles.symm.trans hfiles')
      exact hapart
  obtain ⟨f, -, hf⟩ := hfails.mp htwo
  exact ⟨checked, written, hcheck, hwrite, hone, htwo, hkept, hchanges.mp hone, ⟨f, hf⟩, hsame,
    houtput⟩

end CommandLine

end DotJs
