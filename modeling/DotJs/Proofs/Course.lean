import DotJs.Proofs.CheckedRuns
import DotJs.Proofs.FoundFiles
import DotJs.Proofs.Interleaving

/-!
# The course of a request

A request to rewrite goes through phases: it looks the format up, reads the settings, compiles the
patterns, looks at one target after the other, and only then reads and writes files, in any order.
`Course` is how far it has come, together with all that can be seen of it from outside: the files as
they are now and what was printed. A `Course.Step` does the next thing. What a step has done is
never taken back, so that a run that wrote something before it fails would be seen to have done so.

* `Course.Sound` says what is known in each phase. It holds at the start and is kept by every step
  (`Course.Sound.step`), hence in every course (`Course.Steps.sound`);
* `Course.exists_step` says that there is a next step until the end;
* `Course.steps_ended` and `Course.steps_failed` say that a course can lead to what `perform` tells;
* `Course.Steps.eq_ended` says that it can lead nowhere else, if files lead apart.
-/

namespace DotJs

/-! ## One file after the other -/

/-- A run can deal with one file after the other, so `processAll` is one of the interleavings. -/
theorem Progress.steps_processAll (rules : Rules) (mode : WriteMode) (fs : FileSystem)
    (before : List Job) (files : List FilePath) :
    Steps rules mode ⟨fs, before ++ files.map (⟨·, .waiting⟩)⟩
      ⟨(processAll rules mode fs files).1,
        before ++ (processAll rules mode fs files).2.map fun o => ⟨o.path, .done o⟩⟩ := by
  induction files generalizing fs before with
  | nil => exact .refl
  | cons path rest ih =>
    have hpath := steps_finish rules mode fs before ⟨path, .waiting⟩ (rest.map (⟨·, .waiting⟩))
    simp only [Job.finish] at hpath
    have hrest := ih (fs.commit mode path (rewriteFile fs rules path))
      (before ++ [⟨path, .done (FileOutcome.ofResult path (rewriteFile fs rules path))⟩])
    rw [← List.append_cons, ← List.append_cons] at hrest
    simp only [processAll, List.map_cons, FileOutcome.path_ofResult]
    exact hpath.trans hrest

/-- What has happened to files is told by the jobs that are `done`. -/
theorem Progress.outcomes_done (fs : FileSystem) (outcomes : List FileOutcome) :
    Progress.outcomes ⟨fs, outcomes.map fun o => ⟨o.path, .done o⟩⟩ = outcomes := by
  simp only [Progress.outcomes, List.filterMap_map]
  exact List.filterMap_some

/-- Targets side by side are looked at one after the other, so the search can be taken one target at
a time. -/
theorem Discovery.ofTargets_append (fs : FileSystem) (s : Settings) (seen targets : List FilePath) :
    ofTargets fs s (seen ++ targets) =
      match ofTargets fs s seen with
      | .error fault => .error fault
      | .ok found => (ofTargets fs s targets).map (found ++ ·) := by
  induction seen with
  | nil =>
    simp only [List.nil_append, ofTargets]
    cases ofTargets fs s targets <;> rfl
  | cons target rest ih =>
    simp only [List.cons_append, ofTargets]
    cases ofTarget fs s target with
    | error fault => rfl
    | ok files =>
      simp only [ih]
      cases ofTargets fs s rest with
      | error fault => rfl
      | ok found => cases ofTargets fs s targets <;> simp [Except.map]

namespace CommandLine

/-! ## Phases and steps -/

/-- What a request to rewrite leaves behind when its work is summed up. It is the last case of
`perform`, and a function of its own so that a step can end with it. -/
def Request.report (r : Request) (purpose : Purpose) (format : ReportFormat) (root : FilePath)
    (files : FileSystem) (summary : Summary) : Result :=
  { exit := exitCode purpose summary.stats
    output := printed (summary.text format root)
    messages := if r.quiet then [] else statusLines purpose summary.stats
    files }

/-- How far a `Request` has come. A phase holds what was found out on the way, since the steps
behind it have nothing else to go by. -/
inductive Phase where
  /-- nothing was done yet -/
  | started
  /-- the format is known -/
  | formatted (format : ReportFormat)
  /-- the settings were read -/
  | configured (format : ReportFormat) (settings : Settings)
  /-- some targets are still to be looked at, and these files were found in the others -/
  | searching (format : ReportFormat) (p : Project) (targets found : List FilePath)
  /-- files are read and written -/
  | rewriting (format : ReportFormat) (p : Project) (jobs : List Job)
  /-- the request came to its end, with an exit code -/
  | finished (exit : Nat)
  /-- the request ended before its work was done -/
  | fatal (e : FatalError)
  /-- the request ended because a file could not be written -/
  | unwritten (path : FilePath)

/-- A request on its way, and what there is to see of it. `perform` has a result only at the end,
where an error has no files to show; here they are there in every phase, and a step can leave its
mark on them before a later one fails. -/
structure Course where
  /-- the file system as it is now -/
  files : FileSystem
  /-- the standard output so far -/
  output : Text
  /-- the lines of the standard error output so far -/
  messages : List Text
  /-- how far it has come -/
  phase : Phase

namespace Course

/-- A request at its start, in the phase `started`: nothing printed, no file changed. -/
def start (fs : FileSystem) : Course := ⟨fs, [], [], .started⟩

/-- A request that has come to its end, with all that `perform` tells of it. -/
def ended (result : Result) : Course :=
  ⟨result.files, result.output, result.messages, .finished result.exit⟩

/-- A request that has ended with an error, which is the only line on the standard error output
(`messages`). The files are those at the start. -/
def failed (fs : FileSystem) (e : FatalError) : Course :=
  ⟨fs, [], ["Error: ".toList ++ e.message], .fatal e⟩

/-- The exit code of a request that has ended, as its `phase` tells it. A request that still has
steps to take has none. -/
def exit? (c : Course) : Option Nat :=
  match c.phase with
  | .finished exit => some exit
  | .fatal _ | .unwritten _ => some 1
  | _ => none

/-- A step of a request to rewrite files. The rules follow the order in which the program goes about
its work and name no invariant: that no file is written before all targets were looked at is proved
of them, in `Sound`. Any write may fail (`unwritable`), and the files written before it stay
written. -/
inductive Step (r : Request) (paths : List FilePath) (purpose : Purpose) : Course → Course → Prop
  /-- the format is looked up -/
  | format {fs : FileSystem} {out : Text} {ms : List Text} {format : ReportFormat}
      (h : ReportFormat.ofName? r.format = some format) :
      Step r paths purpose ⟨fs, out, ms, .started⟩ ⟨fs, out, ms, .formatted format⟩
  /-- there is no such format -/
  | noFormat {fs : FileSystem} {out : Text} {ms : List Text}
      (h : ReportFormat.ofName? r.format = none) :
      Step r paths purpose ⟨fs, out, ms, .started⟩
        ⟨fs, out, ms ++ ["Error: ".toList ++ (FatalError.unknownFormat r.format).message],
          .fatal (.unknownFormat r.format)⟩
  /-- the settings are read -/
  | settings {fs : FileSystem} {out : Text} {ms : List Text} {format : ReportFormat}
      {s : Settings} (h : loadSettings fs (r.projectRoot fs) r.rules = .ok s) :
      Step r paths purpose ⟨fs, out, ms, .formatted format⟩ ⟨fs, out, ms, .configured format s⟩
  /-- there are no settings -/
  | noSettings {fs : FileSystem} {out : Text} {ms : List Text} {format : ReportFormat}
      {e : FatalError} (h : loadSettings fs (r.projectRoot fs) r.rules = .error e) :
      Step r paths purpose ⟨fs, out, ms, .formatted format⟩
        ⟨fs, out, ms ++ ["Error: ".toList ++ e.message], .fatal e⟩
  /-- the patterns are compiled -/
  | project {fs : FileSystem} {out : Text} {ms : List Text} {format : ReportFormat}
      {s : Settings} {p : Project} (h : Project.ofSettings (r.projectRoot fs) s = .ok p) :
      Step r paths purpose ⟨fs, out, ms, .configured format s⟩
        ⟨fs, out, ms, .searching format p (Discovery.targets p.root paths) []⟩
  /-- a text is no pattern -/
  | noProject {fs : FileSystem} {out : Text} {ms : List Text} {format : ReportFormat}
      {s : Settings} {pattern : Text}
      (h : Project.ofSettings (r.projectRoot fs) s = .error pattern) :
      Step r paths purpose ⟨fs, out, ms, .configured format s⟩
        ⟨fs, out, ms ++ ["Error: ".toList ++ (FatalError.invalidPattern pattern).message],
          .fatal (.invalidPattern pattern)⟩
  /-- a target is looked at -/
  | target {fs : FileSystem} {out : Text} {ms : List Text} {format : ReportFormat} {p : Project}
      {target : FilePath} {targets found files : List FilePath}
      (h : Discovery.ofTarget fs p.settings target = .ok files) :
      Step r paths purpose ⟨fs, out, ms, .searching format p (target :: targets) found⟩
        ⟨fs, out, ms, .searching format p targets (found ++ files)⟩
  /-- a target cannot be walked through -/
  | noTarget {fs : FileSystem} {out : Text} {ms : List Text} {format : ReportFormat} {p : Project}
      {target : FilePath} {targets found : List FilePath} {fault : WalkFault}
      (h : Discovery.ofTarget fs p.settings target = .error fault) :
      Step r paths purpose ⟨fs, out, ms, .searching format p (target :: targets) found⟩
        ⟨fs, out, ms ++ ["Error: ".toList ++ (FatalError.walk fault).message],
          .fatal (.walk fault)⟩
  /-- all targets were looked at, and the files are put in order -/
  | found {fs : FileSystem} {out : Text} {ms : List Text} {format : ReportFormat} {p : Project}
      {found : List FilePath} :
      Step r paths purpose ⟨fs, out, ms, .searching format p [] found⟩
        ⟨fs, out, ms, .rewriting format p
          (Progress.start fs (dropRepeats FilePath.same (stableSort FilePath.le found))).jobs⟩
  /-- a file is read or written -/
  | work {fs fs' : FileSystem} {out : Text} {ms : List Text} {format : ReportFormat} {p : Project}
      {jobs jobs' : List Job} (h : Progress.Step p.rules purpose.mode ⟨fs, jobs⟩ ⟨fs', jobs'⟩) :
      Step r paths purpose ⟨fs, out, ms, .rewriting format p jobs⟩
        ⟨fs', out, ms, .rewriting format p jobs'⟩
  /-- a file cannot be written -/
  | unwritable {fs : FileSystem} {out : Text} {ms : List Text} {format : ReportFormat} {p : Project}
      {before behind : List Job} {path : FilePath} {output : Output} :
      Step r paths purpose
        ⟨fs, out, ms, .rewriting format p (before ++ ⟨path, .rewritten output⟩ :: behind)⟩
        ⟨fs, out, ms, .unwritten path⟩
  /-- all files were dealt with, and the report is printed -/
  | finish {fs : FileSystem} {out : Text} {ms : List Text} {format : ReportFormat} {p : Project}
      {jobs : List Job} {result : Result} (h : Progress.IsFinished ⟨fs, jobs⟩)
      (hresult : result = r.report purpose format p.root fs
        (Summary.ofOutcomes (Progress.outcomes ⟨fs, jobs⟩))) :
      Step r paths purpose ⟨fs, out, ms, .rewriting format p jobs⟩
        ⟨result.files, out ++ result.output, ms ++ result.messages, .finished result.exit⟩

/-- Some steps (`Step`) one after the other. With several workers there is more than one course for
a request. -/
abbrev Steps (r : Request) (paths : List FilePath) (purpose : Purpose) : Course → Course → Prop :=
  Relation.ReflTransGen (Step r paths purpose)

variable {fs fs' : FileSystem} {r : Request} {paths targets found files : List FilePath}
  {purpose : Purpose} {c c' : Course} {format : ReportFormat} {p : Project} {e : FatalError}
  {result : Result} {out : Text} {ms : List Text}

/-! ## What is known on the way -/

/-- What is known once files are read and written. The work is an interleaving in the sense of
`Progress.Steps`. -/
structure Working (fs : FileSystem) (r : Request) (paths : List FilePath) (purpose : Purpose)
    (format : ReportFormat) (p : Project) (fs' : FileSystem) (jobs : List Job) : Prop where
  /-- the format was looked up -/
  format : ReportFormat.ofName? r.format = some format
  /-- the settings were read and the patterns compiled -/
  project : r.project fs = .ok p
  /-- all targets were looked at, and the work began with the files that were found -/
  work : ∃ files, discover fs p.settings p.root paths = .ok files ∧
    Progress.Steps p.rules purpose.mode (.start fs files) ⟨fs', jobs⟩

/-- What is known of a request that started on a file system: up to the search through the targets
nothing has happened that can be seen, and files are dealt with only if there is no error. It has
one rule for each `Phase`. -/
inductive Sound (fs : FileSystem) (r : Request) (paths : List FilePath) (purpose : Purpose) :
    Course → Prop
  /-- at the start -/
  | started : Sound fs r paths purpose ⟨fs, [], [], .started⟩
  /-- with a format -/
  | formatted {format : ReportFormat} (hformat : ReportFormat.ofName? r.format = some format) :
      Sound fs r paths purpose ⟨fs, [], [], .formatted format⟩
  /-- with settings -/
  | configured {format : ReportFormat} {s : Settings}
      (hformat : ReportFormat.ofName? r.format = some format)
      (hsettings : loadSettings fs (r.projectRoot fs) r.rules = .ok s) :
      Sound fs r paths purpose ⟨fs, [], [], .configured format s⟩
  /-- in the search through the targets -/
  | searching {format : ReportFormat} {p : Project} {seen targets found : List FilePath}
      (hformat : ReportFormat.ofName? r.format = some format) (hproject : r.project fs = .ok p)
      (htargets : Discovery.targets p.root paths = seen ++ targets)
      (hfound : Discovery.ofTargets fs p.settings seen = .ok found) :
      Sound fs r paths purpose ⟨fs, [], [], .searching format p targets found⟩
  /-- at the end with an error -/
  | failed {e : FatalError} (h : perform fs (r.rewriting paths purpose) = .error e) :
      Sound fs r paths purpose (.failed fs e)
  /-- among the files -/
  | rewriting {fs' : FileSystem} {format : ReportFormat} {p : Project} {jobs : List Job}
      (h : Working fs r paths purpose format p fs' jobs) :
      Sound fs r paths purpose ⟨fs', [], [], .rewriting format p jobs⟩
  /-- at the end of the work -/
  | ended {fs' : FileSystem} {format : ReportFormat} {p : Project} {jobs : List Job}
      (h : Working fs r paths purpose format p fs' jobs)
      (hfinished : Progress.IsFinished ⟨fs', jobs⟩) :
      Sound fs r paths purpose
        (.ended (r.report purpose format p.root fs'
          (Summary.ofOutcomes (Progress.outcomes ⟨fs', jobs⟩))))
  /-- at a file that cannot be written -/
  | unwritten {fs' : FileSystem} {format : ReportFormat} {p : Project} {jobs : List Job}
      {path : FilePath} (h : Working fs r paths purpose format p fs' jobs) :
      Sound fs r paths purpose ⟨fs', [], [], .unwritten path⟩

/-- Steps among the files keep what is known (`Working`), as they only make the interleaving
longer. -/
theorem Working.step {jobs jobs' : List Job} {fs'' : FileSystem}
    (h : Working fs r paths purpose format p fs' jobs)
    (hstep : Progress.Step p.rules purpose.mode ⟨fs', jobs⟩ ⟨fs'', jobs'⟩) :
    Working fs r paths purpose format p fs'' jobs' := by
  obtain ⟨files, hfiles, hsteps⟩ := h.work
  exact ⟨h.format, h.project, files, hfiles, hsteps.tail hstep⟩

theorem project_eq_of_settings {s : Settings}
    (h : loadSettings fs (r.projectRoot fs) r.rules = .ok s) :
    r.project fs = match Project.ofSettings (r.projectRoot fs) s with
      | .error pattern => .error (.invalidPattern pattern)
      | .ok p => .ok p := by
  cases hp : Project.ofSettings (r.projectRoot fs) s <;> simp only [Request.project, h, hp]

/-- **Each step keeps what is known.** The cases are the phases of `Sound`, and in each of them the
steps that it has. -/
theorem Sound.step (h : Sound fs r paths purpose c) (hstep : Step r paths purpose c c') :
    Sound fs r paths purpose c' := by
  cases h with
  | started =>
    cases hstep with
    | format hformat => exact .formatted hformat
    | noFormat hformat =>
      refine .failed ?_
      simp only [perform_rewriting, hformat]
  | formatted hformat =>
    cases hstep with
    | settings hsettings => exact .configured hformat hsettings
    | noSettings hsettings =>
      refine .failed ?_
      simp only [perform_rewriting, hformat, Request.project, hsettings]
  | configured hformat hsettings =>
    have hproject := project_eq_of_settings hsettings
    cases hstep with
    | project hp =>
      rw [hp] at hproject
      exact .searching hformat hproject (List.nil_append _).symm rfl
    | noProject hp =>
      refine .failed ?_
      rw [hp] at hproject
      simp only [perform_rewriting, hformat, hproject]
  | @searching format p seen targets found hformat hproject htargets hfound =>
    cases hstep with
    | @target _ _ _ _ _ target rest _ files hfiles =>
      have hrest : Discovery.targets p.root paths = (seen ++ [target]) ++ rest := by
        rw [htargets, List.append_cons]
      refine .searching hformat hproject hrest ?_
      rw [Discovery.ofTargets_append, hfound]
      simp [Discovery.ofTargets, hfiles, Except.map]
    | @noTarget _ _ _ _ _ target rest _ fault hfault =>
      refine .failed ?_
      have hall : Discovery.ofTargets fs p.settings (Discovery.targets p.root paths) =
          .error fault := by
        rw [htargets, Discovery.ofTargets_append, hfound]
        simp [Discovery.ofTargets, hfault, Except.map]
      simp only [perform_rewriting, hformat, hproject, Project.run, discover, hall]
    | found =>
      rw [List.append_nil] at htargets
      rw [← htargets] at hfound
      exact .rewriting ⟨hformat, hproject, _, discover_eq_ok_iff.mpr ⟨found, hfound, rfl⟩, .refl⟩
  | failed => cases hstep
  | rewriting hwork =>
    cases hstep with
    | work hstep => exact .rewriting (hwork.step hstep)
    | unwritable => exact .unwritten hwork
    | finish hfinished hresult =>
      subst hresult
      exact .ended hwork hfinished
  | ended => cases hstep
  | unwritten => cases hstep

/-- What is known holds in every course, by induction on its steps. -/
theorem Steps.sound (h : Steps r paths purpose (.start fs) c) : Sound fs r paths purpose c := by
  induction h with
  | refl => exact .started
  | tail _ hstep ih => exact ih.step hstep

/-- A request goes on until it has an exit code (`exit?`), so where no step is left it has ended. -/
theorem exists_step (r : Request) (paths : List FilePath) (purpose : Purpose)
    (hexit : c.exit? = none) : ∃ c', Step r paths purpose c c' := by
  obtain ⟨fs, out, ms, phase⟩ := c
  cases phase with
  | started =>
    cases h : ReportFormat.ofName? r.format with
    | none => exact ⟨_, .noFormat h⟩
    | some format => exact ⟨_, .format h⟩
  | formatted format =>
    cases h : loadSettings fs (r.projectRoot fs) r.rules with
    | error e => exact ⟨_, .noSettings h⟩
    | ok s => exact ⟨_, .settings h⟩
  | configured format s =>
    cases h : Project.ofSettings (r.projectRoot fs) s with
    | error pattern => exact ⟨_, .noProject h⟩
    | ok p => exact ⟨_, .project h⟩
  | searching format p targets found =>
    cases targets with
    | nil => exact ⟨_, .found⟩
    | cons target rest =>
      cases h : Discovery.ofTarget fs p.settings target with
      | error fault => exact ⟨_, .noTarget h⟩
      | ok files => exact ⟨_, .target h⟩
  | rewriting format p jobs =>
    by_cases hfinished : Progress.IsFinished ⟨fs, jobs⟩
    · exact ⟨_, .finish hfinished rfl⟩
    · -- some file is still to be read or written
      have hsome := mt (Progress.isFinished_iff p.rules purpose.mode).mpr hfinished
      push Not at hsome
      obtain ⟨⟨fs', jobs'⟩, hstep⟩ := hsome
      exact ⟨_, .work hstep⟩
  | finished exit => cases hexit
  | fatal e => cases hexit
  | unwritten path => cases hexit

/-! ## Where a request can come to -/

theorem root_of_project (h : r.project fs = .ok p) : p.root = r.projectRoot fs := by
  simp only [Request.project, Project.ofSettings] at h
  cases hsettings : loadSettings fs (r.projectRoot fs) r.rules with
  | error e =>
    rw [hsettings] at h
    cases h
  | ok s =>
    rw [hsettings] at h
    dsimp only at h
    cases hrules : s.rules with
    | error pattern =>
      rw [hrules] at h
      cases h
    | ok rules =>
      rw [hrules] at h
      rw [← Except.ok.inj h]

/-- A request that has a project comes to its search (`Phase.searching`). -/
theorem steps_searching (hformat : ReportFormat.ofName? r.format = some format)
    (hproject : r.project fs = .ok p) :
    Steps r paths purpose (.start fs)
      ⟨fs, [], [], .searching format p (Discovery.targets p.root paths) []⟩ := by
  refine .head (.format hformat) ?_
  cases hsettings : loadSettings fs (r.projectRoot fs) r.rules with
  | error e => simp [Request.project, hsettings] at hproject
  | ok s =>
    refine .head (.settings hsettings) (.single (.project ?_))
    rw [project_eq_of_settings hsettings] at hproject
    cases hp : Project.ofSettings (r.projectRoot fs) s with
    | error pattern => simp [hp] at hproject
    | ok p' => simpa [hp] using hproject

/-- The search goes through all targets, if there is no fault, and gathers what each contributes. -/
theorem steps_found (h : Discovery.ofTargets fs p.settings targets = .ok files) :
    Steps r paths purpose ⟨fs, out, ms, .searching format p targets found⟩
      ⟨fs, out, ms, .searching format p [] (found ++ files)⟩ := by
  induction targets generalizing found files with
  | nil =>
    obtain rfl := Except.ok.inj h
    rw [List.append_nil]
  | cons target rest ih =>
    rw [Discovery.ofTargets] at h
    split at h
    · cases h
    · next first hfirst =>
      split at h
      · cases h
      · next others hothers =>
        obtain rfl := Except.ok.inj h
        rw [← List.append_assoc]
        exact .head (.target hfirst) (ih hothers)

/-- The search ends at the first fault, and what was found before is of no use. -/
theorem steps_fault {fault : WalkFault}
    (h : Discovery.ofTargets fs p.settings targets = .error fault) :
    Steps r paths purpose ⟨fs, [], [], .searching format p targets found⟩
      (.failed fs (.walk fault)) := by
  induction targets generalizing found with
  | nil => cases h
  | cons target rest ih =>
    rw [Discovery.ofTargets] at h
    split at h
    · next hfault =>
      obtain rfl := Except.error.inj h
      exact .single (.noTarget hfault)
    · next first hfirst =>
      split at h
      · next hfault =>
        obtain rfl := Except.error.inj h
        exact .head (.target hfirst) (ih hfault)
      · cases h

/-- Steps of the work (`Progress.Steps`) are steps of the request, which prints nothing
meanwhile. -/
theorem steps_work {s s' : Progress} (h : Progress.Steps p.rules purpose.mode s s') :
    Steps r paths purpose ⟨s.fs, out, ms, .rewriting format p s.jobs⟩
      ⟨s'.fs, out, ms, .rewriting format p s'.jobs⟩ := by
  induction h with
  | refl => exact .refl
  | tail _ hstep ih => exact ih.tail (.work hstep)

/-- The work can be done one file after the other, and is summed up as in `Project.run`. -/
theorem steps_report (after : FileSystem) (outcomes : List FileOutcome)
    (h : processAll p.rules purpose.mode fs files = (after, outcomes)) :
    Steps r paths purpose ⟨fs, [], [], .rewriting format p (Progress.start fs files).jobs⟩
      (.ended (r.report purpose format p.root after (Summary.ofOutcomes outcomes))) := by
  have hwork : Steps r paths purpose
      ⟨fs, [], [], .rewriting format p (Progress.start fs files).jobs⟩ _ :=
    steps_work (Progress.steps_processAll p.rules purpose.mode fs [] files)
  rw [h] at hwork
  refine hwork.tail (.finish (fun j hj => ?_) ?_)
  · obtain ⟨o, -, rfl⟩ := List.mem_map.mp hj
    rfl
  · rw [List.nil_append, Progress.outcomes_done]

/-- **A request that comes to its end can go the way there step by step**: what `perform` tells is
reached by a course. -/
theorem steps_ended (h : perform fs (r.rewriting paths purpose) = .ok result) :
    Steps r paths purpose (.start fs) (.ended result) := by
  obtain ⟨format, p, after, summary, hformat, hproject, hrun, rfl⟩ := perform_eq_ok h
  rw [Project.run] at hrun
  split at hrun
  · cases hrun
  · next files hfiles =>
    obtain ⟨found, hfound, rfl⟩ := discover_eq_ok_iff.mp hfiles
    obtain ⟨rfl, rfl⟩ := Prod.mk.inj (Except.ok.inj hrun)
    rw [← root_of_project hproject]
    exact (steps_searching hformat hproject).trans
      ((steps_found hfound).trans (.head .found (steps_report _ _ rfl)))

/-- **A request that ends with an error can go the way there step by step**: the error that
`perform` tells is reached by a course. -/
theorem steps_failed (h : perform fs (r.rewriting paths purpose) = .error e) :
    Steps r paths purpose (.start fs) (.failed fs e) := by
  rw [perform_rewriting] at h
  split at h
  · next hformat =>
    obtain rfl := Except.error.inj h
    exact .single (.noFormat hformat)
  · next format hformat =>
    split at h
    · next hproject =>
      obtain rfl := Except.error.inj h
      refine .head (.format hformat) ?_
      cases hsettings : loadSettings fs (r.projectRoot fs) r.rules with
      | error e' =>
        simp only [Request.project, hsettings] at hproject
        obtain rfl := Except.error.inj hproject
        exact .single (.noSettings hsettings)
      | ok s =>
        rw [project_eq_of_settings hsettings] at hproject
        refine .head (.settings hsettings) ?_
        cases hp : Project.ofSettings (r.projectRoot fs) s with
        | error pattern =>
          rw [hp] at hproject
          obtain rfl := Except.error.inj hproject
          exact .single (.noProject hp)
        | ok p =>
          rw [hp] at hproject
          cases hproject
    · next p hproject =>
      split at h
      · next fault hrun =>
        obtain rfl := Except.error.inj h
        refine (steps_searching hformat hproject).trans (steps_fault ?_)
        rw [Project.run] at hrun
        split at hrun
        · next hfault =>
          obtain rfl := Except.error.inj hrun
          rw [discover] at hfault
          split at hfault
          · next hfault' => rwa [Except.error.inj hfault] at hfault'
          · cases hfault
        · cases hrun
      · cases h

/-- **Where files lead apart, `perform` tells the only end** but for a file that cannot be
written. -/
theorem Steps.eq_ended {exit : Nat} (h : Steps r paths purpose (.start fs) c)
    (hphase : c.phase = .finished exit)
    (hapart : ∀ p files, r.project fs = .ok p → discover fs p.settings p.root paths = .ok files →
      fs.LeadApart files) :
    ∃ result, perform fs (r.rewriting paths purpose) = .ok result ∧ c = .ended result := by
  cases h.sound with
  | @ended fs' format p jobs hwork hfinished =>
    obtain ⟨files, hfiles, hsteps⟩ := hwork.work
    -- what is left to do is the same at both ends of the work
    obtain ⟨-, hsame⟩ := hsteps.finishAll_eq
      (Progress.leadApart_start (hapart p files hwork.project hfiles))
    rw [finishAll_start, finishAll_finished hfinished] at hsame
    refine ⟨_, ?_, rfl⟩
    simp only [perform_rewriting, hwork.format, hwork.project, Project.run, hfiles, ← hsame,
      ← root_of_project hwork.project]
    rfl
  | _ => cases hphase

end Course

end CommandLine

end DotJs
