import DotJs.Proofs.CheckedRuns
import DotJs.Proofs.SecondRun

/-!
# What it means that all files are clear

A run that may not write ends with a line that gives the all-clear, if no file was changed. A file
that cannot be read or is no program has no edits either, and is passed over by this line: it tells
that no program asks for an extension, and not that every file is a program. Whether there are files
of the other kind is told by the exit code.

* `FileSystem.IsClear` says what the line means for one file (`FileSystem.isStill_iff_isClear`);
* `Project.changedFiles_summaryOn_eq_zero_iff` says it for all files of a run;
* `CommandLine.mem_statusLines_iff` says when a status has the line. No other line is worded so.

`CommandLine.all_clear_iff` puts this together, and tells what the exit code adds.
-/

namespace DotJs

variable {fs : FileSystem} {rules : Rules} {path : FilePath} {paths files : List FilePath}

/-! ## One file -/

/-- A result of rewriting has no edits just when nothing in the program is to be rewritten, in the
sense of `Program.IsQuiet`. -/
theorem rewriteSource_edits_eq_nil_iff {language : Language} {source : Text} {output : Output}
    (h : rewriteSource rules language source = some output) :
    ∃ program, Source.parse language source = some program ∧
      (output.edits = [] ↔ program.IsQuiet rules) := by
  obtain ⟨program, hparse, h⟩ := Option.bind_eq_some_iff.mp h
  obtain ⟨⟨program', edits⟩, hrewritten, h⟩ := Option.bind_eq_some_iff.mp h
  obtain ⟨code, -, h⟩ := Option.bind_eq_some_iff.mp h
  obtain rfl := Option.some.inj h
  exact ⟨program, hparse, Program.rewritten_edits_eq_nil_iff hrewritten⟩

namespace FileSystem

/-- Whether a file, if it is a program, has nothing that is to be rewritten (`Program.IsQuiet`). It
says nothing of files that cannot be read or are no programs, and that is what the line passes
over. -/
def IsClear (fs : FileSystem) (rules : Rules) (path : FilePath) : Prop :=
  ∀ source, fs.read path = .ok source →
    ∀ program, Source.parse (Language.ofPath path) source = some program → program.IsQuiet rules

/-- A file without edits is clear: `IsStill` looks at the report on it, and `IsClear` at the
program. -/
theorem isStill_iff_isClear : fs.IsStill rules path ↔ fs.IsClear rules path := by
  unfold IsStill IsClear
  rcases rewriteFile_cases fs rules path with ⟨fault, hread, h⟩ | ⟨source, hread, hparse, h⟩ |
    ⟨source, output, hread, houtput, h⟩
  · simp [h, hread, FileOutcome.ofResult]
  · simp [h, hread, hparse, FileOutcome.ofResult]
  · obtain ⟨program, hparse, hiff⟩ := rewriteSource_edits_eq_nil_iff houtput
    simpa [h, hread, hparse, FileOutcome.ofResult] using hiff

/-- A clear file that is a program is one (`HoldsProgram`) in which nothing is to be rewritten. -/
theorem IsClear.holdsProgram_iff (h : fs.IsClear rules path) :
    fs.HoldsProgram path ↔ ∃ source program, fs.read path = .ok source ∧
      Source.parse (Language.ofPath path) source = some program ∧ program.IsQuiet rules := by
  constructor
  · rintro ⟨source, hread, hprogram⟩
    obtain ⟨program, hparse⟩ := Option.isSome_iff_exists.mp hprogram
    exact ⟨source, program, hread, hparse, h source hread program hparse⟩
  · rintro ⟨source, program, hread, hparse, -⟩
    exact ⟨source, hread, by simp [hparse]⟩

end FileSystem

/-! ## All files -/

namespace Project

variable {p : Project}

/-- A run that may not write has the summary about the files as they are (`summaryOn`), also when
some of them lead to one place. -/
theorem run_dryRun (hfiles : discover fs p.settings p.root paths = .ok files) :
    p.run fs paths .dryRun = .ok (fs, p.summaryOn fs files) := by
  simp only [run, hfiles, summaryOn, processAll_dryRun, processAll_dryRun_outcomes]

/-- A run that comes to its end has found its files. -/
theorem exists_discover {mode : WriteMode} {after : FileSystem} {summary : Summary}
    (hrun : p.run fs paths mode = .ok (after, summary)) :
    ∃ files, discover fs p.settings p.root paths = .ok files := by
  cases hfiles : discover fs p.settings p.root paths with
  | ok files => exact ⟨files, rfl⟩
  | error fault => simp [run, hfiles] at hrun

theorem scannedFiles_summaryOn (p : Project) (fs : FileSystem) (files : List FilePath) :
    (p.summaryOn fs files).stats.scannedFiles = files.length :=
  List.length_map _

/-- The summary counts no file as changed just when all are clear in the sense of
`FileSystem.IsClear`. -/
theorem changedFiles_summaryOn_eq_zero_iff (p : Project) (fs : FileSystem)
    (files : List FilePath) :
    (p.summaryOn fs files).stats.changedFiles = 0 ↔ ∀ f ∈ files, fs.IsClear p.rules f := by
  have hchanged : (p.summaryOn fs files).stats.changedFiles ≠ 0 ↔
      ∃ f ∈ files, ¬ fs.IsStill p.rules f := by
    rw [summaryOn, Summary.changedFiles_ne_zero_iff]
    simp only [FileOutcome.isChanged_iff, FileSystem.IsStill, ne_eq]
  simp only [← FileSystem.isStill_iff_isClear]
  constructor
  · intro hnone f hf
    by_cases hstill : fs.IsStill p.rules f
    · exact hstill
    · exact absurd hnone (hchanged.mpr ⟨f, hf, hstill⟩)
  · intro hstill
    by_cases hnone : (p.summaryOn fs files).stats.changedFiles = 0
    · exact hnone
    · obtain ⟨f, hf, hnot⟩ := hchanged.mp hnone
      exact absurd (hstill f hf) hnot

end Project

theorem Text.ofNat_inj {m n : Nat} : ofNat m = ofNat n ↔ m = n := by
  constructor
  · intro h
    have hvalue := congrArg (fun digits => Nat.ofDigitChars 10 digits 0) h
    simpa only [ofNat, Nat.ofDigitChars_ten_toDigits] using hvalue
  · exact congrArg ofNat

namespace CommandLine

variable {r : Request} {purpose : Purpose} {n : Nat}

/-! ## Lines -/

/-- The line of `statusLines` that gives the all-clear about a number of files. The number is that
of all files of the run. -/
def allClearLine (n : Nat) : Text :=
  "All ".toList ++ Text.ofNat n ++ " files already use explicit extensions.".toList

theorem allClearLine_inj {m : Nat} : allClearLine m = allClearLine n ↔ m = n := by
  constructor
  · intro h
    have hstart : "All ".toList ++ Text.ofNat m = "All ".toList ++ Text.ofNat n :=
      List.append_cancel_right h
    exact Text.ofNat_inj.mp (List.append_cancel_left hstart)
  · exact congrArg allClearLine

/-- A line that starts with a number does not give the all-clear. -/
theorem allClearLine_ne_ofNat (m : Nat) (t : Text) : allClearLine n ≠ Text.ofNat m ++ t := by
  intro h
  obtain ⟨c, digits, hdigits⟩ : ∃ c digits, Text.ofNat m = c :: digits :=
    List.exists_cons_of_ne_nil Nat.toDigits_ne_nil
  have hdigit : c.isDigit := by
    apply Nat.isDigit_of_mem_toDigits (b := 10) (n := m) (by decide) (by decide)
    change c ∈ Text.ofNat m
    simp [hdigits]
  rw [hdigits] at h
  obtain ⟨hfirst, -⟩ := List.cons.inj h
  rw [← hfirst] at hdigit
  revert hdigit
  decide

/-- **When a status gives the all-clear**: in a run that may not `write` and has changed no file.
Failed files have no part in this. -/
theorem mem_statusLines_iff {s : Stats} :
    allClearLine n ∈ statusLines purpose s ↔
      purpose ≠ .write ∧ s.changedFiles = 0 ∧ s.scannedFiles = n := by
  cases purpose with
  | write =>
    simp only [statusLines, reduceCtorEq, false_and, if_false, if_true, List.mem_singleton,
      ne_eq, not_true_eq_false, iff_false]
    intro h
    exact absurd (List.cons.inj h).1 (by decide)
  | report =>
    have hlines : statusLines .report s =
        if s.changedFiles = 0 then [allClearLine s.scannedFiles] else [] := rfl
    by_cases hnone : s.changedFiles = 0 <;> simp [hlines, hnone, allClearLine_inj, eq_comm]
  | check =>
    by_cases hnone : s.changedFiles = 0
    · have hlines : statusLines .check s = [allClearLine s.scannedFiles] := by
        simp only [statusLines, hnone, ne_eq, not_true_eq_false, and_false, reduceCtorEq, if_false,
          if_true]
        rfl
      simp [hlines, hnone, allClearLine_inj, eq_comm]
    · have hlines : statusLines .check s =
          [Text.ofNat s.changedFiles ++ " files need rewriting.".toList] := by
        simp [statusLines, hnone]
      simp only [hlines, hnone, List.mem_singleton, false_and, and_false, iff_false]
      exact allClearLine_ne_ofNat _ _

/-- A run that ends before its work is done does not give the all-clear (`allClearLine`): its only
line is the error. -/
theorem mem_messages_iff {r : Request} :
    allClearLine n ∈ (r.run fs).messages ↔
      ∃ result, perform fs r = .ok result ∧ allClearLine n ∈ result.messages := by
  unfold Request.run
  cases perform fs r with
  | ok result => simp
  | error e =>
    have herror : allClearLine n ≠ "Error: ".toList ++ e.message := by
      intro h
      exact absurd (List.cons.inj h).1 (by decide)
    simpa using herror

/-! ## Requests -/

theorem Purpose.mode_eq_dryRun (h : purpose ≠ .write) : purpose.mode = .dryRun := by
  cases purpose with
  | write => exact absurd rfl h
  | report => rfl
  | check => rfl

/-- What `perform` says that a request to rewrite leaves behind, if it may not write and comes to
its end. -/
theorem perform_dryRun {format : ReportFormat} {p : Project} (hpurpose : purpose ≠ .write)
    (hformat : ReportFormat.ofName? r.format = some format) (hproject : r.project fs = .ok p)
    (hfiles : discover fs p.settings p.root paths = .ok files) :
    perform fs (r.rewriting paths purpose) =
      .ok
        { exit := exitCode purpose (p.summaryOn fs files).stats
          output := printed ((p.summaryOn fs files).text format (r.projectRoot fs))
          messages := if r.quiet then [] else statusLines purpose (p.summaryOn fs files).stats
          files := fs } := by
  simp only [perform_rewriting, hformat, hproject, Purpose.mode_eq_dryRun hpurpose,
    Project.run_dryRun hfiles]

/-- **When the all-clear is given**: by a run that may not write, comes to its end and is not quiet,
if all of its files are clear (`FileSystem.IsClear`). -/
theorem mem_messages_rewriting_iff :
    allClearLine n ∈ ((r.rewriting paths purpose).run fs).messages ↔
      r.quiet = false ∧ purpose ≠ .write ∧ (ReportFormat.ofName? r.format).isSome ∧
        ∃ p files, r.project fs = .ok p ∧ discover fs p.settings p.root paths = .ok files ∧
          files.length = n ∧ ∀ f ∈ files, fs.IsClear p.rules f := by
  rw [mem_messages_iff]
  constructor
  · rintro ⟨result, hperform, hline⟩
    obtain ⟨format, p, after, summary, hformat, hproject, hrun, rfl⟩ := perform_eq_ok hperform
    obtain ⟨files, hfiles⟩ := Project.exists_discover hrun
    cases hquiet : r.quiet with
    | true => simp [hquiet] at hline
    | false =>
      simp only [hquiet, Bool.false_eq_true, if_false] at hline
      obtain ⟨hpurpose, hnone, hscanned⟩ := mem_statusLines_iff.mp hline
      rw [Purpose.mode_eq_dryRun hpurpose, Project.run_dryRun hfiles] at hrun
      obtain ⟨rfl, rfl⟩ := Prod.mk.inj (Except.ok.inj hrun)
      refine ⟨rfl, hpurpose, by simp [hformat], p, files, hproject, hfiles, ?_, ?_⟩
      · exact (p.scannedFiles_summaryOn fs files).symm.trans hscanned
      · exact (p.changedFiles_summaryOn_eq_zero_iff fs files).mp hnone
  · rintro ⟨hquiet, hpurpose, hsome, p, files, hproject, hfiles, hlength, hclear⟩
    obtain ⟨format, hformat⟩ := Option.isSome_iff_exists.mp hsome
    refine ⟨_, perform_dryRun hpurpose hformat hproject hfiles, ?_⟩
    simp only [hquiet, Bool.false_eq_true, if_false]
    apply mem_statusLines_iff.mpr
    exact ⟨hpurpose, (p.changedFiles_summaryOn_eq_zero_iff fs files).mpr hclear,
      (p.scannedFiles_summaryOn fs files).trans hlength⟩

/-- Without changes, `exitCode` tells of failures. -/
theorem exitCode_of_changedFiles_eq_zero {s : Stats} (purpose : Purpose) (h : s.changedFiles = 0) :
    (exitCode purpose s = 0 ↔ ¬ s.failedFiles ≠ 0) ∧
      (exitCode purpose s = 2 ↔ s.failedFiles ≠ 0) := by
  unfold exitCode
  by_cases hfailed : s.failedFiles = 0 <;> simp [h, hfailed]

/-- **What the all-clear tells.** A run that may not write says of `n` files that all of them use
extensions just when it finds `n` files and each of them that can be read and is a program has
nothing to rewrite (`FileSystem.IsClear`). Files that are no programs are counted among the `n`. The
exit code tells whether there are such files: it is 0 just when each of the `n` files is a program
in which nothing is to be rewritten, and 2 just when one of them is no program. -/
theorem all_clear_iff (fs : FileSystem) (r : Request) (paths : List FilePath) (purpose : Purpose)
    (n : Nat) :
    let result := (r.rewriting paths purpose).run fs
    (allClearLine n ∈ result.messages ↔
      r.quiet = false ∧ purpose ≠ .write ∧ (ReportFormat.ofName? r.format).isSome ∧
        ∃ p files, r.project fs = .ok p ∧ discover fs p.settings p.root paths = .ok files ∧
          files.length = n ∧ ∀ f ∈ files, fs.IsClear p.rules f) ∧
    ∀ p files, r.project fs = .ok p → discover fs p.settings p.root paths = .ok files →
      allClearLine n ∈ result.messages →
        (result.exit = 0 ↔ ∀ f ∈ files, ∃ source program, fs.read f = .ok source ∧
          Source.parse (Language.ofPath f) source = some program ∧ program.IsQuiet p.rules) ∧
        (result.exit = 2 ↔ ∃ f ∈ files, ¬ fs.HoldsProgram f) := by
  refine ⟨mem_messages_rewriting_iff, ?_⟩
  intro p files hproject hfiles hline
  obtain ⟨-, hpurpose, hsome, p', files', hproject', hfiles', -, hclear⟩ :=
    mem_messages_rewriting_iff.mp hline
  obtain rfl := Except.ok.inj (hproject.symm.trans hproject')
  obtain rfl := Except.ok.inj (hfiles.symm.trans hfiles')
  obtain ⟨format, hformat⟩ := Option.isSome_iff_exists.mp hsome
  have hexit : ((r.rewriting paths purpose).run fs).exit =
      exitCode purpose (p.summaryOn fs files).stats := by
    rw [Request.run, perform_dryRun hpurpose hformat hproject hfiles]
  obtain ⟨hzero, htwo⟩ := exitCode_of_changedFiles_eq_zero purpose
    ((p.changedFiles_summaryOn_eq_zero_iff fs files).mpr hclear)
  rw [hexit, hzero, htwo, p.failedFiles_summaryOn_ne_zero_iff fs files]
  refine ⟨?_, Iff.rfl⟩
  have hquiet : ∀ f ∈ files, _ := fun f hf => (hclear f hf).holdsProgram_iff
  simp only [not_exists, not_and, Classical.not_not]
  exact forall₂_congr hquiet

/-- A run that gives the all-clear about two programs, and ends with 0. -/
theorem all_clear_iff_programs :
    let fs : FileSystem :=
      ⟨[(["p", "a.ts"].map String.toList, .text "import './b.js'".toList),
        (["p", "b.ts"].map String.toList, .text "let x = 1".toList)], [], ["p".toList]⟩
    let r : Request := ⟨.explain [], none, "list".toList, ⟨[], [], false⟩, false⟩
    let p : Project := ⟨"/p".toList, .default, ⟨[], [], false⟩⟩
    let files := ["/p/a.ts", "/p/b.ts"].map String.toList
    let result := (r.rewriting [] .check).run fs
    r.project fs = .ok p ∧ discover fs p.settings p.root [] = .ok files ∧
      allClearLine 2 ∈ result.messages ∧ result.exit = 0 ∧
      ∀ f ∈ files, ∃ source program, fs.read f = .ok source ∧
        Source.parse (Language.ofPath f) source = some program ∧ program.IsQuiet p.rules := by
  intro fs r p files result
  have hproject : r.project fs = .ok p := eq_ok_of_toOption (by decide +kernel)
  have hfiles : discover fs p.settings p.root [] = .ok files :=
    eq_ok_of_toOption (by decide +kernel)
  have hline : allClearLine 2 ∈ result.messages := by decide +kernel
  have hexit : result.exit = 0 := by decide +kernel
  obtain ⟨-, htells⟩ := all_clear_iff fs r [] .check 2
  obtain ⟨hzero, -⟩ := htells p files hproject hfiles hline
  exact ⟨hproject, hfiles, hline, hexit, hzero.mp hexit⟩

/-- The all-clear about a file that is no program. -/
theorem all_clear_without_program :
    let fs : FileSystem :=
      ⟨[(["p", "a.ts"].map String.toList, .text "import \x7b".toList)], [], ["p".toList]⟩
    let r : Request := ⟨.explain [], none, "list".toList, ⟨[], [], false⟩, false⟩
    let p : Project := ⟨"/p".toList, .default, ⟨[], [], false⟩⟩
    let result := (r.rewriting [] .report).run fs
    r.project fs = .ok p ∧ discover fs p.settings p.root [] = .ok ["/p/a.ts".toList] ∧
      result.messages = [allClearLine 1] ∧
      result.output = "a.ts: error: Failed to parse file: \n".toList ∧ result.exit = 2 ∧
      ¬ fs.HoldsProgram "/p/a.ts".toList := by
  intro fs r p result
  have hproject : r.project fs = .ok p := eq_ok_of_toOption (by decide +kernel)
  have hfiles : discover fs p.settings p.root [] = .ok ["/p/a.ts".toList] :=
    eq_ok_of_toOption (by decide +kernel)
  have hfailed : (FileOutcome.ofResult "/p/a.ts".toList
      (rewriteFile fs p.rules "/p/a.ts".toList)).isFailed := by decide +kernel
  exact ⟨hproject, hfiles, by decide +kernel, by decide +kernel, by decide +kernel,
    FileOutcome.isFailed_iff.mp hfailed⟩

end CommandLine

end DotJs
