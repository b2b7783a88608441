import DotJs.Proofs.BatchRun
import Mathlib.Data.List.Nodup
import Mathlib.Logic.Relation

/-!
# Runs with several workers

Workers may share the files of a run, so that a file is read while others wait to be written.
Such a run is told by steps: `Progress` is how far it has come, and a `Progress.Step` reads some
waiting file, or writes some file that was read. A chain of steps is an interleaving.

What a run on its way still has to do can be done in the order of the list, by `finishAll`. For
files that lead apart the result is the same before and after any step
(`Progress.Step.finishAll_eq`), because it does not matter whether a file is read or written now or
when its turn comes (`finishAll_read`, `finishAll_write`). So it is the same at both ends of an
interleaving: at its start it is what `processAll` does, and at its end nothing is left to do.
-/

namespace DotJs

/-- How far a file of a run (`Job`) has come. A file is read and written in two steps, so that steps
about other files can come between them. -/
inductive Stage where
  /-- it has to be read -/
  | waiting
  /-- it was read and has to be written -/
  | rewritten (output : Output)
  /-- nothing is left to do, and this happened to it -/
  | done (outcome : FileOutcome)

/-- How far a file has come when it was read and rewritten (`rewriteFile`). It has to be written
only if its text changed and the run may write. -/
def Stage.ofResult (mode : WriteMode) (path : FilePath) : Except FileFault Output → Stage
  | .ok output =>
    if output.isChanged && mode == .write then .rewritten output
    else .done (FileOutcome.ofResult path (.ok output))
  | .error fault => .done (FileOutcome.ofResult path (.error fault))

/-- A file of a run and how far it has come. Jobs are a list and not a map, since a run may list two
paths to one file. -/
structure Job where
  /-- the file -/
  path : FilePath
  /-- how far it has come -/
  stage : Stage

/-- What happened to a file, when nothing is left to do for it (`done`). -/
def Job.outcome? (j : Job) : Option FileOutcome :=
  match j.stage with
  | .done outcome => some outcome
  | _ => none

/-- A run on its way: what the files hold now, and what is left to do (`Job`). -/
structure Progress where
  /-- the file system as it is now -/
  fs : FileSystem
  /-- the files of the run -/
  jobs : List Job

namespace Progress

/-- A run at its start, when all files are `waiting`. -/
def start (fs : FileSystem) (files : List FilePath) : Progress := ⟨fs, files.map (⟨·, .waiting⟩)⟩

/-- What has happened to files so far (`Job.outcome?`), in the order of the list and not in that of
the steps. -/
def outcomes (s : Progress) : List FileOutcome := s.jobs.filterMap Job.outcome?

/-- Whether nothing is left to do, that is, each job has an outcome. -/
def IsFinished (s : Progress) : Prop := ∀ j ∈ s.jobs, j.outcome?.isSome

/-- A step of a run. Which job is the next one is left open, as it is with workers that take a file
each; a file is read as it is at that moment. -/
inductive Step (rules : Rules) (mode : WriteMode) : Progress → Progress → Prop
  /-- a file is read and rewritten -/
  | read (fs : FileSystem) (before : List Job) (path : FilePath) (behind : List Job) :
      Step rules mode ⟨fs, before ++ ⟨path, .waiting⟩ :: behind⟩
        ⟨fs, before ++ ⟨path, .ofResult mode path (rewriteFile fs rules path)⟩ :: behind⟩
  /-- a file is written -/
  | write (fs : FileSystem) (before : List Job) (path : FilePath) (output : Output)
      (behind : List Job) :
      Step rules mode ⟨fs, before ++ ⟨path, .rewritten output⟩ :: behind⟩
        ⟨fs.write path output.code,
          before ++ ⟨path, .done (FileOutcome.ofResult path (.ok output))⟩ :: behind⟩

end Progress

/-- Does what is left to do for a file. It is no step of a run, but what the run is compared with,
by `finishAll`. -/
def Job.finish (rules : Rules) (mode : WriteMode) (fs : FileSystem) (j : Job) :
    FileSystem × FileOutcome :=
  match j.stage with
  | .waiting =>
    let result := rewriteFile fs rules j.path
    (fs.commit mode j.path result, FileOutcome.ofResult j.path result)
  | .rewritten output =>
    (fs.write j.path output.code, FileOutcome.ofResult j.path (.ok output))
  | .done outcome => (fs, outcome)

/-- Does what is left to do for some files, one after the other. From the start it is `processAll`,
which makes it the invariant of all interleavings. -/
def finishAll (rules : Rules) (mode : WriteMode) :
    FileSystem → List Job → FileSystem × List FileOutcome
  | fs, [] => (fs, [])
  | fs, j :: rest =>
    let (fs, outcome) := j.finish rules mode fs
    let (fs, outcomes) := finishAll rules mode fs rest
    (fs, outcome :: outcomes)

variable {fs : FileSystem} {rules : Rules} {mode : WriteMode} {files paths : List FilePath}
  {p q : FilePath} {j : Job} {before behind : List Job} {s s' : Progress}

/-! ## Writes to different files -/

namespace FileSystem

theorem update_comm {l l' : Location} (h : l ≠ l') (c c' : Content) :
    (fs.update l c).update l' c' = (fs.update l' c').update l c := by
  simp only [update, List.map_map]
  congr 1
  refine List.map_congr_left fun f _ => ?_
  simp only [Function.comp]
  by_cases hl : f.1 = l
  · have hl' : f.1 ≠ l' := hl ▸ h
    rw [if_pos hl, if_neg h, if_neg hl', if_pos hl]
  · by_cases hl' : f.1 = l'
    · rw [if_neg hl, if_pos hl', if_neg h.symm]
    · rw [if_neg hl, if_neg hl', if_neg hl]

/-- Writes to different files can change places, and so can the steps that make them. -/
theorem write_comm (h : ∀ l, fs.resolve p = .ok l → fs.resolve q ≠ .ok l) (t u : Text) :
    (fs.write p t).write q u = (fs.write q u).write p t := by
  have hp := (fs.write_sameBesides q u).resolve p
  have hq := (fs.write_sameBesides p t).resolve q
  simp only [write] at *
  rw [hp, hq]
  cases hl : fs.resolve p with
  | error fault => rfl
  | ok l =>
    cases hl' : fs.resolve q with
    | error fault => rfl
    | ok l' =>
      refine update_comm ?_ _ _
      rintro rfl
      exact h l hl hl'

end FileSystem

/-! ## Finishing one file -/

namespace Job

/-- A file that was just read is finished by writing it, where it has to be written: `commit` in two
steps. -/
theorem finish_ofResult (path : FilePath) (result : Except FileFault Output) :
    (Job.mk path (.ofResult mode path result)).finish rules mode fs =
      (fs.commit mode path result, FileOutcome.ofResult path result) := by
  cases result with
  | error fault => rfl
  | ok output =>
    simp only [Stage.ofResult, FileSystem.commit]
    split <;> rfl

/-- Finishing a file changes no other one, by `SameBesides`. -/
theorem finish_sameBesides (rules : Rules) (mode : WriteMode) (fs : FileSystem) (j : Job) :
    fs.SameBesides (j.finish rules mode fs).1 [j.path] := by
  obtain ⟨path, stage⟩ := j
  cases stage with
  | waiting => exact fs.commit_sameBesides mode path _
  | rewritten output => exact fs.write_sameBesides path output.code
  | done outcome => exact .refl fs _

/-- Finishing a file does not see whether another one was written before. -/
theorem finish_write (h : ∀ l, fs.resolve j.path = .ok l → fs.resolve q ≠ .ok l) (t : Text) :
    j.finish rules mode (fs.write q t) =
      ((j.finish rules mode fs).1.write q t, (j.finish rules mode fs).2) := by
  have hwrite : ∀ u, (fs.write q t).write j.path u = (fs.write j.path u).write q t :=
    fun u => (FileSystem.write_comm h u t).symm
  obtain ⟨path, stage⟩ := j
  cases stage with
  | waiting =>
    have hread : rewriteFile (fs.write q t) rules path = rewriteFile fs rules path :=
      (fs.write_sameBesides q t).rewriteFile_eq fun l hq hp => h l hp hq
    simp only [finish]
    rw [hread]
    cases rewriteFile fs rules path with
    | error fault => rfl
    | ok output =>
      simp only [FileSystem.commit]
      split
      · rw [hwrite]
      · rfl
  | rewritten output =>
    simp only [finish]
    rw [hwrite]
  | done outcome => rfl

end Job

/-! ## Finishing all files -/

/-- Whether a path leads to none of the files of some jobs. Those before a job in the list are the
ones that `finishAll` deals with first. -/
def FileSystem.LeadsPast (fs : FileSystem) (path : FilePath) (jobs : List Job) : Prop :=
  ∀ j ∈ jobs, ∀ l, fs.resolve j.path = .ok l → fs.resolve path ≠ .ok l

theorem FileSystem.LeadsPast.finish (h : fs.LeadsPast q (j :: before)) (rules : Rules)
    (mode : WriteMode) : (j.finish rules mode fs).1.LeadsPast q before := by
  intro k hk l
  rw [(j.finish_sameBesides rules mode fs).resolve, (j.finish_sameBesides rules mode fs).resolve]
  exact h k (List.mem_cons_of_mem j hk) l

/-- It does not matter whether a file is read now or when its turn comes in `finishAll`. -/
theorem finishAll_read (h : fs.LeadsPast q before) :
    finishAll rules mode fs
        (before ++ ⟨q, .ofResult mode q (rewriteFile fs rules q)⟩ :: behind) =
      finishAll rules mode fs (before ++ ⟨q, .waiting⟩ :: behind) := by
  induction before generalizing fs with
  | nil =>
    simp only [List.nil_append, finishAll]
    rw [Job.finish_ofResult]
    rfl
  | cons j before ih =>
    have hread : rewriteFile (j.finish rules mode fs).1 rules q = rewriteFile fs rules q :=
      (j.finish_sameBesides rules mode fs).rewriteFile_eq (h j List.mem_cons_self)
    have hlater := ih (h.finish rules mode)
    rw [hread] at hlater
    simp only [List.cons_append, finishAll]
    rw [hlater]

/-- It does not matter whether a file is written now or when its turn comes in `finishAll`. -/
theorem finishAll_write {output : Output} (h : fs.LeadsPast q before) :
    finishAll rules mode (fs.write q output.code)
        (before ++ ⟨q, .done (FileOutcome.ofResult q (.ok output))⟩ :: behind) =
      finishAll rules mode fs (before ++ ⟨q, .rewritten output⟩ :: behind) := by
  induction before generalizing fs with
  | nil => rfl
  | cons j before ih =>
    have hlater := ih (h.finish rules mode)
    simp only [List.cons_append, finishAll]
    rw [Job.finish_write (h j List.mem_cons_self), hlater]

/-- Files of which nothing was done yet are finished as `processAll` deals with them, one after the
other. -/
theorem finishAll_start (rules : Rules) (mode : WriteMode) (fs : FileSystem)
    (files : List FilePath) :
    finishAll rules mode (Progress.start fs files).fs (Progress.start fs files).jobs =
      processAll rules mode fs files := by
  induction files generalizing fs with
  | nil => rfl
  | cons path rest ih =>
    have hrest := ih (fs.commit mode path (rewriteFile fs rules path))
    simp only [Progress.start, List.map_cons] at *
    rw [finishAll, processAll]
    simp only [Job.finish]
    rw [hrest]

/-- Files that are finished are left alone by `finishAll`. -/
theorem finishAll_finished (hs : s.IsFinished) :
    finishAll rules mode s.fs s.jobs = (s.fs, s.outcomes) := by
  obtain ⟨fs, jobs⟩ := s
  simp only [Progress.outcomes, Progress.IsFinished] at *
  induction jobs with
  | nil => rfl
  | cons j rest ih =>
    obtain ⟨path, stage⟩ := j
    have hj := hs _ List.mem_cons_self
    cases stage with
    | done outcome =>
      rw [finishAll]
      simp only [Job.finish]
      rw [ih fun j hj => hs j (List.mem_cons_of_mem _ hj)]
      rfl
    | _ => cases hj

/-! ## Steps -/

namespace Progress

/-- A step is about the files that there were: it neither adds a job nor takes one away. -/
theorem Step.paths_eq (h : Step rules mode s s') : s'.jobs.map (·.path) = s.jobs.map (·.path) := by
  cases h <;> simp only [List.map_append, List.map_cons]

/-- No step changes where paths lead, so files that lead apart do so to the end. -/
theorem Step.resolve_eq (h : Step rules mode s s') (path : FilePath) :
    s'.fs.resolve path = s.fs.resolve path := by
  cases h with
  | read => rfl
  | write fs before path' output behind => exact (fs.write_sameBesides path' _).resolve path

/-- Whether the files of a run lead apart, as `FileSystem.LeadApart` says of paths. -/
def LeadApart (s : Progress) : Prop := s.fs.LeadApart (s.jobs.map (·.path))

theorem leadApart_start (h : fs.LeadApart files) : (start fs files).LeadApart := by
  have hpaths : (start fs files).jobs.map (·.path) = files := by
    simp only [start, List.map_map]
    exact List.map_id files
  unfold LeadApart
  rwa [hpaths]

theorem LeadApart.step (h : s.LeadApart) (hstep : Step rules mode s s') : s'.LeadApart := by
  simp only [LeadApart, FileSystem.LeadApart] at *
  simp only [hstep.paths_eq, hstep.resolve_eq]
  exact h

/-- Each file of a run that leads apart leads past those before it, as `finishAll_read` and
`finishAll_write` need it. -/
theorem LeadApart.leadsPast (h : LeadApart ⟨fs, before ++ j :: behind⟩) :
    fs.LeadsPast j.path before := by
  obtain ⟨-, -, hcross⟩ := List.pairwise_append.mp (List.pairwise_map.mp h)
  exact fun k hk => hcross k hk j List.mem_cons_self

/-- **A step changes nothing about the end** of a run, if its files lead apart. The two rules of
`Step` are `finishAll_read` and `finishAll_write`. -/
theorem Step.finishAll_eq (h : Step rules mode s s') (hapart : s.LeadApart) :
    finishAll rules mode s'.fs s'.jobs = finishAll rules mode s.fs s.jobs := by
  cases h with
  | read => exact finishAll_read hapart.leadsPast
  | write => exact finishAll_write hapart.leadsPast

/-- Some steps (`Step`) one after the other, which is an interleaving of what the workers do. -/
abbrev Steps (rules : Rules) (mode : WriteMode) : Progress → Progress → Prop :=
  Relation.ReflTransGen (Step rules mode)

/-- **Steps in any order change nothing about the end** of a run. The induction is on the steps. -/
theorem Steps.finishAll_eq (h : Steps rules mode s s') (hapart : s.LeadApart) :
    s'.LeadApart ∧ finishAll rules mode s'.fs s'.jobs = finishAll rules mode s.fs s.jobs := by
  induction h with
  | refl => exact ⟨hapart, rfl⟩
  | tail _ hstep ih => exact ⟨ih.1.step hstep, (hstep.finishAll_eq ih.1).trans ih.2⟩

/-! ## Coming to the end -/

/-- A file is finished in some steps: none, one or two, by how far it has come. -/
theorem steps_finish (rules : Rules) (mode : WriteMode) (fs : FileSystem) (before : List Job)
    (j : Job) (behind : List Job) :
    Steps rules mode ⟨fs, before ++ j :: behind⟩
      ⟨(j.finish rules mode fs).1,
        before ++ ⟨j.path, .done (j.finish rules mode fs).2⟩ :: behind⟩ := by
  obtain ⟨path, stage⟩ := j
  cases stage with
  | waiting =>
    refine .head (.read fs before path behind) ?_
    simp only [Job.finish]
    cases rewriteFile fs rules path with
    | error fault => exact .refl
    | ok output =>
      simp only [Stage.ofResult, FileSystem.commit]
      split
      · exact .single (.write fs before path output behind)
      · exact .refl
  | rewritten output => exact .single (.write fs before path output behind)
  | done outcome => exact .refl

/-- A run whose first files are finished can be finished by dealing with the others in the order of
the list. -/
theorem exists_steps_append (rules : Rules) (mode : WriteMode) (fs : FileSystem)
    (before behind : List Job) (hbefore : ∀ j ∈ before, j.outcome?.isSome) :
    ∃ s', Steps rules mode ⟨fs, before ++ behind⟩ s' ∧ s'.IsFinished := by
  induction behind generalizing before fs with
  | nil =>
    refine ⟨_, .refl, ?_⟩
    rwa [List.append_nil]
  | cons j behind ih =>
    have hj := steps_finish rules mode fs before j behind
    obtain ⟨s', hsteps, hfinished⟩ := ih (j.finish rules mode fs).1
      (before ++ [⟨j.path, .done (j.finish rules mode fs).2⟩]) fun k hk => by
        rcases List.mem_append.mp hk with hk | hk
        · exact hbefore k hk
        · rw [List.mem_singleton.mp hk]
          rfl
    rw [← List.append_cons] at hsteps
    exact ⟨s', hj.trans hsteps, hfinished⟩

/-- A run can be finished from anywhere, so no interleaving gets stuck. -/
theorem exists_steps_isFinished (rules : Rules) (mode : WriteMode) (s : Progress) :
    ∃ s', Steps rules mode s s' ∧ s'.IsFinished :=
  exists_steps_append rules mode s.fs [] s.jobs fun _ hj => absurd hj List.not_mem_nil

/-- A run is finished (`IsFinished`) when no step is left, which says the same without a look at
outcomes. -/
theorem isFinished_iff (rules : Rules) (mode : WriteMode) :
    s.IsFinished ↔ ∀ s', ¬ Step rules mode s s' := by
  constructor
  · intro h s' hstep
    cases hstep with
    | read => cases h _ (List.mem_append_right _ List.mem_cons_self)
    | write => cases h _ (List.mem_append_right _ List.mem_cons_self)
  · intro h j hj
    obtain ⟨before, behind, hjobs⟩ := List.append_of_mem hj
    obtain ⟨fs, jobs⟩ := s
    obtain ⟨path, stage⟩ := j
    subst hjobs
    cases stage with
    | waiting => exact absurd (.read fs before path behind) (h _)
    | rewritten output => exact absurd (.write fs before path output behind) (h _)
    | done outcome => rfl

end Progress

/-! ## The whole run -/

theorem FileOutcome.path_ofResult (path : FilePath) (result : Except FileFault Output) :
    (ofResult path result).path = path := by
  cases result <;> rfl

/-- `ofOutcomes` does not tell in which order outcomes came, if their paths are strictly in order in
some order. Workers hand over their outcomes as they come. -/
theorem Summary.ofOutcomes_eq_of_perm {outcomes outcomes' : List FileOutcome}
    (h : outcomes.Pairwise fun a b => FilePath.compare a.path b.path = .lt)
    (hperm : outcomes'.Perm outcomes) : ofOutcomes outcomes' = ofOutcomes outcomes := by
  have hnodup : (outcomes.map fun o => FilePath.components o.path).Nodup := by
    refine List.pairwise_map.mpr (h.imp fun {a b} hab heq => ?_)
    rw [FilePath.compare_eq_eq_iff.mpr (beq_iff_eq.mpr heq)] at hab
    cases hab
  have hanti : ∀ a ∈ outcomes, ∀ b ∈ outcomes, FileOutcome.le a b → FileOutcome.le b a →
      a = b := by
    intro a ha b hb hab hba
    have heq : FilePath.compare a.path b.path = .eq :=
      Std.OrientedCmp.isLE_antisymm (FilePath.le_iff_isLE.mp hab) (FilePath.le_iff_isLE.mp hba)
    exact List.inj_on_of_nodup_map hnodup ha hb (beq_iff_eq.mp (FilePath.compare_eq_eq_iff.mp heq))
  have hsorted : stableSort FileOutcome.le outcomes = stableSort FileOutcome.le outcomes' :=
    stableSort_eq_of_perm (fun a b => FilePath.le_total a.path b.path)
      (fun a b c => FilePath.le_trans a.path b.path c.path) hperm.symm hanti
  simp only [ofOutcomes]
  rw [hperm.length_eq, hsorted]

/-- **Sharing the work changes nothing.** Let the files of a run lead to different places
(`LeadApart`), and let their steps (`Progress.Step`) be taken in any order. Wherever this has led so
far, it can be led to an end where no step is left. And at any end, the file system is the one that
`Project.run` has led to, which deals with one file after the other, and what happened to the files
is summed up as there, in whatever order it was gathered. -/
theorem Project.run_interleaved {p : Project}
    (hfiles : discover fs p.settings p.root paths = .ok files) (hapart : fs.LeadApart files)
    (mode : WriteMode) :
    ∃ after summary, p.run fs paths mode = .ok (after, summary) ∧
      ∀ s, Progress.Steps p.rules mode (.start fs files) s →
        (∃ s', Progress.Steps p.rules mode s s' ∧ ∀ s'', ¬ Progress.Step p.rules mode s' s'') ∧
        ((∀ s', ¬ Progress.Step p.rules mode s s') → s.fs = after ∧
          ∀ outcomes, outcomes.Perm s.outcomes → Summary.ofOutcomes outcomes = summary) := by
  have hrun : p.run fs paths mode = .ok ((processAll p.rules mode fs files).1,
      Summary.ofOutcomes (processAll p.rules mode fs files).2) := by
    simp only [Project.run]
    rw [hfiles]
  refine ⟨_, _, hrun, fun s hsteps => ⟨?_, fun hend => ?_⟩⟩
  · obtain ⟨s', hsteps', hfinished⟩ := Progress.exists_steps_isFinished p.rules mode s
    exact ⟨s', hsteps', (Progress.isFinished_iff p.rules mode).mp hfinished⟩
  · obtain ⟨-, hsame⟩ := hsteps.finishAll_eq (Progress.leadApart_start hapart)
    have hfinished := (Progress.isFinished_iff p.rules mode).mpr hend
    rw [finishAll_start, finishAll_finished hfinished] at hsame
    rw [← hsame]
    refine ⟨rfl, fun outcomes hperm => Summary.ofOutcomes_eq_of_perm ?_ hperm⟩
    have houtcomes := processAll_outcomes p.rules mode hapart
    rw [← hsame] at houtcomes
    dsimp only at houtcomes
    rw [houtcomes]
    refine List.pairwise_map.mpr ((discover_pairwise hfiles).imp fun hab => ?_)
    rwa [FileOutcome.path_ofResult, FileOutcome.path_ofResult]

/-- Two files, both read before any is written, and the second one written first. -/
theorem Project.run_interleaved_crosswise :
    let fs : FileSystem :=
      ⟨[(["p", "a.ts"].map String.toList, .text "import './b'".toList),
        (["p", "b.ts"].map String.toList, .text "import '../c'".toList)], [], []⟩
    let p : Project := ⟨"/p".toList, .default, ⟨[], [], false⟩⟩
    let files := ["/p/a.ts", "/p/b.ts"].map String.toList
    discover fs p.settings p.root [] = .ok files ∧ fs.LeadApart files ∧
      ∃ s summary, Progress.Steps p.rules .write (.start fs files) s ∧
        (∀ s', ¬ Progress.Step p.rules .write s s') ∧
        s.fs = (fs.write "/p/b.ts".toList "import '../c.js'".toList).write "/p/a.ts".toList
          "import './b.js'".toList ∧
        p.run fs [] .write = .ok (s.fs, summary) ∧
        Summary.ofOutcomes s.outcomes.reverse = summary := by
  intro fs p files
  have hsome : (discover fs p.settings p.root []).toOption = some files := by decide +kernel
  have hfiles : discover fs p.settings p.root [] = .ok files := eq_ok_of_toOption hsome
  have hapart : fs.LeadApart files := FileSystem.leadApart_of_nodup (by decide +kernel)
  let a := "/p/a.ts".toList
  let b := "/p/b.ts".toList
  have hread : ∀ f code, (rewriteFile fs p.rules f).toOption.map (fun o => (o.isChanged, o.code)) =
      some (true, code) → ∃ output, Stage.ofResult .write f (rewriteFile fs p.rules f) =
        .rewritten output ∧ output.code = code := by
    intro f code h
    obtain ⟨output, hresult, hpair⟩ := Option.map_eq_some_iff.mp h
    obtain ⟨hchanged, hcode⟩ := Prod.mk.inj hpair
    refine ⟨output, ?_, hcode⟩
    rw [eq_ok_of_toOption hresult, Stage.ofResult, hchanged]
    rfl
  obtain ⟨outputA, hstageA, hcodeA⟩ := hread a "import './b.js'".toList (by decide +kernel)
  obtain ⟨outputB, hstageB, hcodeB⟩ := hread b "import '../c.js'".toList (by decide +kernel)
  -- the four steps
  have hreadB : Progress.Step p.rules .write ⟨fs, [⟨a, .waiting⟩, ⟨b, .waiting⟩]⟩
      ⟨fs, [⟨a, .waiting⟩, ⟨b, .rewritten outputB⟩]⟩ := by
    rw [← hstageB]
    exact .read fs [⟨a, .waiting⟩] b []
  have hreadA : Progress.Step p.rules .write ⟨fs, [⟨a, .waiting⟩, ⟨b, .rewritten outputB⟩]⟩
      ⟨fs, [⟨a, .rewritten outputA⟩, ⟨b, .rewritten outputB⟩]⟩ := by
    rw [← hstageA]
    exact .read fs [] a [⟨b, .rewritten outputB⟩]
  have hwriteB : Progress.Step p.rules .write
      ⟨fs, [⟨a, .rewritten outputA⟩, ⟨b, .rewritten outputB⟩]⟩
      ⟨fs.write b outputB.code,
        [⟨a, .rewritten outputA⟩, ⟨b, .done (.ofResult b (.ok outputB))⟩]⟩ :=
    .write fs [⟨a, .rewritten outputA⟩] b outputB []
  have hwriteA : Progress.Step p.rules .write
      ⟨fs.write b outputB.code,
        [⟨a, .rewritten outputA⟩, ⟨b, .done (.ofResult b (.ok outputB))⟩]⟩
      ⟨(fs.write b outputB.code).write a outputA.code,
        [⟨a, .done (.ofResult a (.ok outputA))⟩, ⟨b, .done (.ofResult b (.ok outputB))⟩]⟩ :=
    .write (fs.write b outputB.code) [] a outputA [⟨b, .done (.ofResult b (.ok outputB))⟩]
  let s : Progress := ⟨(fs.write b outputB.code).write a outputA.code,
    [⟨a, .done (.ofResult a (.ok outputA))⟩, ⟨b, .done (.ofResult b (.ok outputB))⟩]⟩
  have hsteps : Progress.Steps p.rules .write (.start fs files) s :=
    .head hreadB (.head hreadA (.head hwriteB (.single hwriteA)))
  have hfinished : s.IsFinished := by
    intro j hj
    rcases List.mem_pair.mp hj with rfl | rfl <;> rfl
  obtain ⟨after, summary, hrun, hends⟩ := Project.run_interleaved hfiles hapart .write
  have hend := (Progress.isFinished_iff p.rules .write).mp hfinished
  obtain ⟨hafter, hsummary⟩ := (hends s hsteps).2 hend
  refine ⟨hfiles, hapart, s, summary, hsteps, hend, ?_, ?_, hsummary _ (List.reverse_perm _)⟩
  · simp only [s, hcodeA, hcodeB, a, b]
  · rw [hrun, hafter]

end DotJs
