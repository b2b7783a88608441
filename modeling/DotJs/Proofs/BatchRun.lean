import DotJs.Batch
import DotJs.Proofs.OnlyInserts
import DotJs.Proofs.PathOrder

/-!
# What a batch run does

A run deals with one file after the other. What it does to a file can only be told by the files
if none of them is dealt with twice, that is if no two paths lead to the same place.

* `FileSystem.SameBesides` is the frame: all paths lead where they led, and only files to which
  some given paths lead may hold something else;
* `FileSystem.Handled` says what becomes of one file and what is reported of it, with one rule
  for each way in which it can go;
* `FileSystem.commit_sameBesides` and `FileSystem.commit_handled` are about one step, and
  `processAll_sameBesides` and `processAll_handled` about all of them.

`Project.run_summary` puts this together with the order of the summary.
-/

namespace DotJs

variable {fs fs' fs'' : FileSystem} {rules : Rules} {mode : WriteMode} {path q : FilePath}
  {paths files : List FilePath}

/-! ## Reading and rewriting one file -/

/-- A path can be read when it leads to a file that holds a `text`, and not to bytes that are
none. -/
theorem FileSystem.read_eq_ok_iff {t : Text} :
    fs.read path = .ok t ↔
      ∃ l, fs.resolve path = .ok l ∧ fs.contentAt? l = some (.text t) := by
  simp only [FileSystem.read]
  constructor
  · intro h
    cases hl : fs.resolve path with
    | error e =>
      rw [hl] at h
      cases h
    | ok l =>
      rw [hl] at h
      dsimp only at h
      split at h
      · next hc =>
        cases h
        exact ⟨l, rfl, hc⟩
      · cases h
      · cases h
  · rintro ⟨l, hl, hc⟩
    rw [hl]
    dsimp only
    rw [hc]

/-- What `read` gives hangs on the place that a path leads to and on what it holds, and on nothing
else of the file system. -/
theorem FileSystem.read_congr (hresolve : fs'.resolve path = fs.resolve path)
    (hkept : ∀ l, fs.resolve path = .ok l → fs'.contentAt? l = fs.contentAt? l) :
    fs'.read path = fs.read path := by
  simp only [FileSystem.read]
  rw [hresolve]
  cases hl : fs.resolve path with
  | error fault => rfl
  | ok l =>
    dsimp only
    rw [hkept l hl]

/-- A result of `rewriteSource` without edits is the source, which is why a run need not write
it. -/
theorem rewriteSource_code_eq {language : Language} {source : Text} {output : Output}
    (h : rewriteSource rules language source = some output) (hsame : output.isChanged = false) :
    output.code = source := by
  simp only [rewriteSource] at h
  obtain ⟨program, -, h⟩ := Option.bind_eq_some_iff.mp h
  obtain ⟨⟨program', edits⟩, -, h⟩ := Option.bind_eq_some_iff.mp h
  obtain ⟨code, hcode, h⟩ := Option.bind_eq_some_iff.mp h
  obtain rfl := Option.some.inj h
  cases edits with
  | nil => exact (Option.some.inj hcode).symm
  | cons e es => cases hsame

/-- The ways in which a file is read and rewritten: it cannot be read, it is no program, or it is
rewritten. Later proofs split on this and need not unfold `rewriteFile`. -/
theorem rewriteFile_cases (fs : FileSystem) (rules : Rules) (path : FilePath) :
    (∃ fault, fs.read path = .error fault ∧
      rewriteFile fs rules path = .error (.unreadable fault)) ∨
    (∃ source, fs.read path = .ok source ∧ Source.parse (Language.ofPath path) source = none ∧
      rewriteFile fs rules path = .error .noProgram) ∨
    ∃ source output, fs.read path = .ok source ∧
      rewriteSource rules (Language.ofPath path) source = some output ∧
      rewriteFile fs rules path = .ok output := by
  simp only [rewriteFile]
  cases hread : fs.read path with
  | error fault => exact .inl ⟨fault, rfl, rfl⟩
  | ok source =>
    dsimp only
    cases houtput : rewriteSource rules (Language.ofPath path) source with
    | none => exact .inr (.inl ⟨source, rfl, rewriteSource_eq_none_iff.mp houtput, rfl⟩)
    | some output => exact .inr (.inr ⟨source, output, rfl, houtput, rfl⟩)

/-- `rewriteFile` depends on its text only, and not on the file system around it. -/
theorem rewriteFile_congr (h : fs'.read path = fs.read path) :
    rewriteFile fs' rules path = rewriteFile fs rules path := by
  simp only [rewriteFile]
  rw [h]

/-! ## What may change -/

namespace FileSystem

/-- Whether no two of some paths lead to the same place. Paths that differ may do so all the same,
as `a.ts` and `src/../a.ts` do. -/
def LeadApart (fs : FileSystem) (files : List FilePath) : Prop :=
  files.Pairwise fun a b => ∀ l, fs.resolve a = .ok l → fs.resolve b ≠ .ok l

/-- Paths lead apart (`LeadApart`) when it is seen from the list of the places they lead to, which
can be evaluated. -/
theorem leadApart_of_nodup (h : (files.map fun f => (fs.resolve f).toOption).Nodup) :
    fs.LeadApart files := by
  refine (List.pairwise_map.mp h).imp fun hab l ha hb => hab ?_
  rw [ha, hb]

/-- Whether two file systems differ at most in the files to which some paths lead (`resolve`). This
is the frame of a run: it never makes, moves or removes a file, so places stay what they are. -/
structure SameBesides (fs fs' : FileSystem) (paths : List FilePath) : Prop where
  /-- every path leads where it led -/
  resolve : ∀ p, fs'.resolve p = fs.resolve p
  /-- the directories are the same -/
  isDirectory : ∀ l, fs'.isDirectory l = fs.isDirectory l
  /-- other places hold what they held -/
  contentAt? : ∀ l, (∀ p ∈ paths, fs.resolve p ≠ .ok l) → fs'.contentAt? l = fs.contentAt? l

namespace SameBesides

theorem refl (fs : FileSystem) (paths : List FilePath) : fs.SameBesides fs paths :=
  ⟨fun _ => rfl, fun _ => rfl, fun _ _ => rfl⟩

/-- Changes at one path, followed by changes at others, as in a run with its first step and the
steps behind. -/
theorem trans (h : fs.SameBesides fs' [path]) (h' : fs'.SameBesides fs'' paths) :
    fs.SameBesides fs'' (path :: paths) where
  resolve p := (h'.resolve p).trans (h.resolve p)
  isDirectory l := (h'.isDirectory l).trans (h.isDirectory l)
  contentAt? l hl := by
    have hpath : ∀ p ∈ [path], fs.resolve p ≠ .ok l := fun p hp =>
      hl p (List.mem_cons.mpr (.inl (List.mem_singleton.mp hp)))
    have hpaths : ∀ p ∈ paths, fs'.resolve p ≠ .ok l := fun p hp => by
      rw [h.resolve]
      exact hl p (List.mem_cons_of_mem _ hp)
    exact (h'.contentAt? l hpaths).trans (h.contentAt? l hpath)

/-- A path that leads to none of the changed files is read as before. -/
theorem read (h : fs.SameBesides fs' paths)
    (hq : ∀ p ∈ paths, ∀ l, fs.resolve q = .ok l → fs.resolve p ≠ .ok l) :
    fs'.read q = fs.read q :=
  read_congr (h.resolve q) fun l hl => h.contentAt? l fun p hp => hq p hp l hl

end SameBesides

/-- What becomes of a file in a run that writes, and the report on it (`FileOutcome`). Each rule
says what the file held before and what it holds afterwards, so that a report that fits by chance is
not enough. -/
inductive Handled (fs fs' : FileSystem) (rules : Rules) (path : FilePath) : FileOutcome → Prop
  /-- a file that cannot be read stays as it is -/
  | unreadable {fault : PathFault} (hread : fs.read path = .error fault)
      (hkept : ∀ l, fs.resolve path = .ok l → fs'.contentAt? l = fs.contentAt? l) :
      Handled fs fs' rules path ⟨path, [], some (FileFault.unreadable fault).message⟩
  /-- a file that is no program stays as it is -/
  | noProgram {source : Text} (hread : fs.read path = .ok source)
      (hparse : Source.parse (Language.ofPath path) source = none)
      (hkept : ∀ l, fs.resolve path = .ok l → fs'.contentAt? l = fs.contentAt? l) :
      Handled fs fs' rules path ⟨path, [], some FileFault.noProgram.message⟩
  /-- any other file holds its rewritten text afterwards -/
  | rewritten {source : Text} {output : Output} (hread : fs.read path = .ok source)
      (houtput : rewriteSource rules (Language.ofPath path) source = some output)
      (hafter : fs'.read path = .ok output.code) :
      Handled fs fs' rules path ⟨path, output.edits, none⟩

/-- What became of a file (`Handled`) stays true if others change first: it was read as it would
have been at the start. -/
theorem Handled.of_before {o : FileOutcome} (h : fs'.Handled fs'' rules path o)
    (hsame : fs.SameBesides fs' paths)
    (hpath : ∀ p ∈ paths, ∀ l, fs.resolve path = .ok l → fs.resolve p ≠ .ok l) :
    fs.Handled fs'' rules path o := by
  have hread := hsame.read hpath
  have hkeep : (∀ l, fs'.resolve path = .ok l → fs''.contentAt? l = fs'.contentAt? l) →
      ∀ l, fs.resolve path = .ok l → fs''.contentAt? l = fs.contentAt? l := by
    intro hkept l hl
    rw [hkept l ((hsame.resolve path).trans hl)]
    exact hsame.contentAt? l fun p hp => hpath p hp l hl
  cases h with
  | unreadable hfault hkept => exact .unreadable (hread.symm.trans hfault) (hkeep hkept)
  | noProgram hsource hparse hkept =>
    exact .noProgram (hread.symm.trans hsource) hparse (hkeep hkept)
  | rewritten hsource houtput hafter =>
    exact .rewritten (hread.symm.trans hsource) houtput hafter

/-- What became of a file (`Handled`) stays true if others change afterwards: it still holds what it
was given. -/
theorem Handled.of_behind {o : FileOutcome} (h : fs.Handled fs' rules path o)
    (hresolve : ∀ p, fs'.resolve p = fs.resolve p) (hsame : fs'.SameBesides fs'' paths)
    (hpath : ∀ p ∈ paths, ∀ l, fs.resolve path = .ok l → fs.resolve p ≠ .ok l) :
    fs.Handled fs'' rules path o := by
  have hpath' : ∀ p ∈ paths, ∀ l, fs'.resolve path = .ok l → fs'.resolve p ≠ .ok l := by
    intro p hp l
    rw [hresolve, hresolve]
    exact hpath p hp l
  have hkeep : (∀ l, fs.resolve path = .ok l → fs'.contentAt? l = fs.contentAt? l) →
      ∀ l, fs.resolve path = .ok l → fs''.contentAt? l = fs.contentAt? l := by
    intro hkept l hl
    rw [← hkept l hl]
    exact hsame.contentAt? l fun p hp => hpath' p hp l ((hresolve path).trans hl)
  cases h with
  | unreadable hfault hkept => exact .unreadable hfault (hkeep hkept)
  | noProgram hsource hparse hkept => exact .noProgram hsource hparse (hkeep hkept)
  | rewritten hsource houtput hafter =>
    exact .rewritten hsource houtput ((hsame.read hpath').trans hafter)

/-! ## One step -/

/-- In a `dryRun`, a step changes nothing, whatever the result for the file. -/
theorem commit_dryRun (fs : FileSystem) (path : FilePath) (result : Except FileFault Output) :
    fs.commit .dryRun path result = fs := by
  simp only [commit]
  cases result with
  | error fault => rfl
  | ok output =>
    have hmay : (WriteMode.dryRun == .write) = false := rfl
    dsimp only
    rw [hmay, Bool.and_false]
    rfl

/-- An `update` changes the file to which its path leads, and no other one. -/
theorem update_sameBesides {l : Location} (hl : fs.resolve path = .ok l) (c : Content) :
    fs.SameBesides (fs.update l c) [path] where
  resolve p := resolve_update fs l c p
  isDirectory l' := isDirectory_update fs l l' c
  contentAt? l' h := by
    refine contentAt?_update_of_ne c ?_
    rintro rfl
    exact h path List.mem_cons_self hl

/-- A write changes the file to which its path leads, if it leads to one; else `write` does
nothing. -/
theorem write_sameBesides (fs : FileSystem) (path : FilePath) (text : Text) :
    fs.SameBesides (fs.write path text) [path] := by
  simp only [write]
  cases hl : fs.resolve path with
  | error fault => exact .refl fs _
  | ok l => exact update_sameBesides hl _

/-- A step writes at most the file that it is about, in either mode. -/
theorem commit_sameBesides (fs : FileSystem) (mode : WriteMode) (path : FilePath)
    (result : Except FileFault Output) : fs.SameBesides (fs.commit mode path result) [path] := by
  simp only [commit]
  cases result with
  | error fault => exact .refl fs _
  | ok output =>
    dsimp only
    split
    · exact write_sameBesides fs path output.code
    · exact .refl fs _

/-- A step that may write leaves its file as `Handled` says. Writing a file that is there cannot
fail here, which is the condition under which the program goes on. -/
theorem commit_handled (fs : FileSystem) (rules : Rules) (path : FilePath) :
    fs.Handled (fs.commit .write path (rewriteFile fs rules path)) rules path
      (FileOutcome.ofResult path (rewriteFile fs rules path)) := by
  rcases rewriteFile_cases fs rules path with ⟨fault, hread, h⟩ | ⟨source, hread, hparse, h⟩ |
    ⟨source, output, hread, houtput, h⟩
  · rw [h]
    exact .unreadable hread fun _ _ => rfl
  · rw [h]
    exact .noProgram hread hparse fun _ _ => rfl
  · rw [h]
    refine .rewritten hread houtput ?_
    simp only [commit]
    cases hchanged : output.isChanged with
    | false =>
      -- nothing is written, but the text is the same as before
      rw [rewriteSource_code_eq houtput hchanged]
      exact hread
    | true =>
      obtain ⟨l, hl, hc⟩ := read_eq_ok_iff.mp hread
      have hfile : fs.isFileAt l := by rw [isFileAt, hc, Option.isSome_some]
      have hmay : (true && WriteMode.write == .write) = true := rfl
      simp only [write]
      rw [if_pos hmay, hl]
      exact read_eq_ok_iff.mpr
        ⟨l, (resolve_update fs l _ path).trans hl, contentAt?_update_self _ hfile⟩

end FileSystem

/-! ## All steps -/

/-- A `dryRun` leaves the file system as it was. -/
theorem processAll_dryRun (rules : Rules) (fs : FileSystem) (files : List FilePath) :
    (processAll rules .dryRun fs files).1 = fs := by
  induction files with
  | nil => rfl
  | cons path rest ih =>
    rw [processAll, FileSystem.commit_dryRun]
    exact ih

/-- A run (`processAll`) changes at most the files that it is about. This holds also for paths that
do not lead apart. -/
theorem processAll_sameBesides (rules : Rules) (mode : WriteMode) (fs : FileSystem)
    (files : List FilePath) : fs.SameBesides (processAll rules mode fs files).1 files := by
  induction files generalizing fs with
  | nil => exact .refl fs []
  | cons path rest ih => exact (fs.commit_sameBesides mode path _).trans (ih _)

/-- The paths of a run lead apart after its first step if they did before, since no path leads
elsewhere by a write. -/
theorem FileSystem.LeadApart.commit (h : fs.LeadApart files) (mode : WriteMode)
    (path : FilePath) (result : Except FileFault Output) :
    (fs.commit mode path result).LeadApart files := by
  simp only [FileSystem.LeadApart]
  simp only [(fs.commit_sameBesides mode path _).resolve]
  exact h

/-- A file that is not the one that changed is rewritten as before. -/
theorem FileSystem.SameBesides.rewriteFile_eq (h : fs.SameBesides fs' [path])
    (hpath : ∀ l, fs.resolve path = .ok l → fs.resolve q ≠ .ok l) :
    rewriteFile fs' rules q = rewriteFile fs rules q := by
  refine rewriteFile_congr (h.read fun p hp l hq hl => ?_)
  rw [List.mem_singleton.mp hp] at hl
  exact hpath l hl hq

/-- **The reports of a run** are those of `rewriteFile` on its files as they were at the start,
since none of them is written before its turn. -/
theorem processAll_outcomes (rules : Rules) (mode : WriteMode) (h : fs.LeadApart files) :
    (processAll rules mode fs files).2 =
      files.map fun f => FileOutcome.ofResult f (rewriteFile fs rules f) := by
  -- the first step may write, so the induction is over all file systems
  induction files generalizing fs with
  | nil => rfl
  | cons path rest ih =>
    obtain ⟨hpath, hrest⟩ := List.pairwise_cons.mp h
    have hstep := fs.commit_sameBesides mode path (rewriteFile fs rules path)
    rw [List.map_cons, processAll]
    dsimp only
    rw [ih (FileSystem.LeadApart.commit hrest mode path _)]
    exact congrArg _ (List.map_congr_left fun f hf => by
      rw [hstep.rewriteFile_eq (hpath f hf)])

/-- **What a run does to each file** is what a step does to it alone. The induction is on the files;
the steps before and behind are taken away by `Handled.of_before` and `Handled.of_behind`. -/
theorem processAll_handled (rules : Rules) (h : fs.LeadApart files) :
    ∀ f ∈ files, fs.Handled (processAll rules .write fs files).1 rules f
      (FileOutcome.ofResult f (rewriteFile fs rules f)) := by
  induction files generalizing fs with
  | nil => exact fun f hf => absurd hf List.not_mem_nil
  | cons path rest ih =>
    obtain ⟨hpath, hrest⟩ := List.pairwise_cons.mp h
    have hstep := fs.commit_sameBesides .write path (rewriteFile fs rules path)
    intro f hf
    rcases List.mem_cons.mp hf with rfl | hf
    · -- the first step deals with this file, and no later one touches it
      exact (fs.commit_handled rules f).of_behind hstep.resolve
        (processAll_sameBesides rules .write _ rest) fun p hp l hl => hpath p hp l hl
    · -- a later file is still as it was when its turn comes
      have hlater := FileSystem.LeadApart.commit hrest .write path (rewriteFile fs rules path)
      have hbehind := ih hlater f hf
      rw [hstep.rewriteFile_eq (hpath f hf)] at hbehind
      refine hbehind.of_before hstep fun p hp l hl hp' => ?_
      rw [List.mem_singleton.mp hp] at hp'
      exact hpath f hf l hp' hl

/-! ## The whole run -/

/-- The files of a run are listed by `discover` strictly in order, so none is listed twice. -/
theorem discover_pairwise {settings : Settings} {root : FilePath}
    (h : discover fs settings root paths = .ok files) :
    files.Pairwise fun a b => FilePath.compare a b = .lt := by
  simp only [discover] at h
  split at h
  · cases h
  · next found _ =>
    cases h
    exact FilePath.listed_pairwise found

theorem FileSystem.Handled.path_eq {o : FileOutcome} (h : fs.Handled fs' rules path o) :
    o.path = path := by
  cases h <;> rfl

/-- A file is not reported both as changed and as failed: one with an error has no edits. -/
theorem FileSystem.Handled.isChanged_eq {o : FileOutcome} (h : fs.Handled fs' rules path o)
    (ho : o.isChanged || o.isFailed) : o.isChanged = !o.isFailed := by
  cases h with
  | unreadable => rfl
  | noProgram => rfl
  | rewritten =>
    rw [Bool.or_eq_true] at ho
    rcases ho with ho | ho
    · exact ho
    · cases ho

/-- Outcomes that are strictly in order are reported by `ofOutcomes` in this order, without those
that have neither edits nor an error. -/
theorem Summary.files_ofOutcomes {outcomes : List FileOutcome}
    (h : outcomes.Pairwise fun a b => FilePath.compare a.path b.path = .lt) :
    (Summary.ofOutcomes outcomes).files =
      outcomes.filter fun o => o.isChanged || o.isFailed := by
  have hle : outcomes.Pairwise fun a b => FileOutcome.le a b := by
    refine h.imp fun hab => ?_
    rw [FileOutcome.le, FilePath.le, hab]
    rfl
  simp only [Summary.ofOutcomes]
  rw [stableSort_eq_self hle]

/-- Changed and failed files add up when none is both and none is neither. -/
theorem Summary.length_changedFiles_add {s : Summary}
    (h : ∀ o ∈ s.files, o.isChanged = !o.isFailed) :
    s.changedFiles.length + s.failedFiles.length = s.files.length := by
  have hchanged : s.changedFiles = s.files.filter fun o => !o.isFailed :=
    List.filter_congr h
  rw [hchanged, Summary.failedFiles, ← List.countP_eq_length_filter,
    ← List.countP_eq_length_filter, Nat.add_comm, List.length_eq_countP_add_countP (·.isFailed)]
  simp

/-- **A run does what its summary says.** Let the files of a run lead to different places
(`LeadApart`). Then the run comes to its end, with the same summary whether or not it may write. The
summary counts all files and reports those with edits or an error, strictly in order, each as
changed or as failed and never as both. A file that cannot be read or is no program has an error, no
edits and what it held before (`Handled`); the edits of any other file are those of its rewritten
text, which it holds after a run that writes. Other files are left alone (`SameBesides`), and a run
that may not write leaves them all. -/
theorem Project.run_summary {p : Project}
    (hfiles : discover fs p.settings p.root paths = .ok files) (hapart : fs.LeadApart files) :
    ∃ (outcome : FilePath → FileOutcome) (summary : Summary) (after : FileSystem),
      p.run fs paths .dryRun = .ok (fs, summary) ∧
      p.run fs paths .write = .ok (after, summary) ∧
      summary.scanned = files.length ∧
      summary.files = (files.map outcome).filter (fun o => o.isChanged || o.isFailed) ∧
      summary.files.Pairwise (fun a b => FilePath.compare a.path b.path = .lt) ∧
      (∀ o ∈ summary.files, o.isChanged = !o.isFailed) ∧
      summary.changedFiles.length + summary.failedFiles.length = summary.files.length ∧
      summary.files.length ≤ summary.scanned ∧
      (∀ f ∈ files, fs.Handled after p.rules f (outcome f)) ∧
      fs.SameBesides after files := by
  let outcome := fun f => FileOutcome.ofResult f (rewriteFile fs p.rules f)
  let summary := Summary.ofOutcomes (files.map outcome)
  -- the reports are about the files as they were at the start, so that the mode does not matter
  have hrun : ∀ mode, p.run fs paths mode =
      .ok ((processAll p.rules mode fs files).1, summary) := by
    intro mode
    simp only [Project.run]
    rw [hfiles]
    dsimp only
    rw [processAll_outcomes p.rules mode hapart]
  have hdry := hrun .dryRun
  rw [processAll_dryRun] at hdry
  have hhandled := processAll_handled p.rules hapart
  have hsorted : (files.map outcome).Pairwise
      fun a b => FilePath.compare a.path b.path = .lt := by
    refine List.pairwise_map.mpr ((discover_pairwise hfiles).imp_of_mem fun ha hb hab => ?_)
    rwa [(hhandled _ ha).path_eq, (hhandled _ hb).path_eq]
  have hreported : summary.files = (files.map outcome).filter _ :=
    Summary.files_ofOutcomes hsorted
  -- what is neither changed nor failed is not reported, and nothing is both
  have hone : ∀ o ∈ summary.files, o.isChanged = !o.isFailed := by
    intro o ho
    rw [hreported] at ho
    obtain ⟨hmem, ho⟩ := List.mem_filter.mp ho
    obtain ⟨f, hf, rfl⟩ := List.mem_map.mp hmem
    exact (hhandled f hf).isChanged_eq ho
  have hscanned : summary.scanned = files.length := List.length_map outcome
  have hfewer : summary.files.length ≤ summary.scanned := by
    rw [hreported]
    exact List.length_filter_le _ _
  have hordered : summary.files.Pairwise fun a b => FilePath.compare a.path b.path = .lt := by
    rw [hreported]
    exact hsorted.filter _
  exact ⟨outcome, summary, _, hdry, hrun .write, hscanned, hreported, hordered, hone,
    Summary.length_changedFiles_add hone, hfewer, hhandled,
    processAll_sameBesides p.rules .write fs files⟩

theorem eq_ok_of_toOption {ε α : Type} {x : Except ε α} {a : α} (h : x.toOption = some a) :
    x = .ok a := by
  cases x with
  | error e => cases h
  | ok b => rw [Option.some.inj h]

/-- A project with a file to rewrite, one that needs nothing, one that is no text and one that is no
program. -/
theorem Project.run_summary_mixed :
    let fs : FileSystem :=
      ⟨[(["p", "a.ts"].map String.toList, .text "import './b'".toList),
        (["p", "b.ts"].map String.toList, .text "let x = 1".toList),
        (["p", "c.ts"].map String.toList, .binary [255]),
        (["p", "d.ts"].map String.toList, .text "import './b".toList)], [], []⟩
    let p : Project := ⟨"/p".toList, .default, ⟨[], [], false⟩⟩
    let files := ["/p/a.ts", "/p/b.ts", "/p/c.ts", "/p/d.ts"].map String.toList
    discover fs p.settings p.root [] = .ok files ∧ fs.LeadApart files ∧
      ∃ summary after,
        p.run fs [] .dryRun = .ok (fs, summary) ∧ p.run fs [] .write = .ok (after, summary) ∧
        summary.files.map (·.path) = ["/p/a.ts", "/p/c.ts", "/p/d.ts"].map String.toList ∧
        summary.changedFiles.length + summary.failedFiles.length = 3 ∧
        after.read "/p/a.ts".toList = .ok "import './b.js'".toList ∧
        fs.SameBesides after files := by
  intro fs p files
  have hsome : (discover fs p.settings p.root []).toOption = some files := by decide +kernel
  have hfiles : discover fs p.settings p.root [] = .ok files := eq_ok_of_toOption hsome
  have hapart : fs.LeadApart files := FileSystem.leadApart_of_nodup (by decide +kernel)
  obtain ⟨outcome, summary, after, hdry, hwrite, -, -, -, -, hadd, -, -, hsame⟩ :=
    Project.run_summary hfiles hapart
  have hresult : (p.run fs [] .write).toOption.map (fun r =>
      (r.2.files.map (·.path), (r.1.read "/p/a.ts".toList).toOption)) =
      some (["/p/a.ts", "/p/c.ts", "/p/d.ts"].map String.toList,
        some "import './b.js'".toList) := by decide +kernel
  rw [hwrite] at hresult
  obtain ⟨hpaths, hread⟩ := Prod.mk.inj (Option.some.inj hresult)
  have hlength := congrArg List.length hpaths
  rw [List.length_map] at hlength
  exact ⟨hfiles, hapart, summary, after, hdry, hwrite, hpaths, hadd.trans hlength,
    eq_ok_of_toOption hread, hsame⟩

end DotJs
