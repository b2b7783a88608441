import DotJs.Proofs.Course

/-!
# Fatal errors

A request to rewrite can end before its work is done. `Request.checks` lists what can be wrong, in
the order in which it counts: the format, the settings file, the patterns, the targets. Some of this
can only be told late, as the targets come after everything else; but it is all told before the work
begins.

`fault?_perform` says that a request fails just when something is wrong, with the first fault of the
list. It is put together from one lemma for each of the functions that can fail. What is known in a
course carries this over to all ways in which a request can go (`fatal_error_leaves_all`).
-/

namespace DotJs

/-- The error of an `Except`, if it is one. Faults of different functions can then be put into one
list. -/
def fault? {ε α : Type} : Except ε α → Option ε
  | .error e => some e
  | .ok _ => none

theorem fault?_eq_some_iff {ε α : Type} {x : Except ε α} {e : ε} :
    fault? x = some e ↔ x = .error e := by
  cases x <;> simp [fault?]

theorem fault?_eq_none_iff {ε α : Type} {x : Except ε α} : fault? x = none ↔ ∃ a, x = .ok a := by
  cases x <;> simp [fault?]

variable {fs : FileSystem} {paths : List FilePath}

theorem FileSystem.read_of_not_isThere {path : FilePath} (h : ¬ fs.isThere path) :
    ∃ fault, fs.read path = .error fault := by
  simp only [isThere] at h
  simp only [read]
  cases hl : fs.resolve path with
  | error fault => exact ⟨fault, rfl⟩
  | ok l =>
    rw [hl] at h
    exact absurd rfl h

namespace CommandLine

/-- Something that can be wrong with a request. A check is made by itself, whether or not those
before it have failed, so their order is that of a list (`Request.checks`). -/
inductive Check where
  /-- there may be no such format -/
  | format
  /-- the settings file may not be readable -/
  | readable
  /-- the settings file may hold no settings -/
  | parsable
  /-- a text may be no pattern -/
  | pattern (text : Text)
  /-- there may be no way through a target -/
  | target (path : FilePath)

/-- What is wrong, if anything is. Each case asks the function that the program asks for this. -/
def Check.fault? (fs : FileSystem) (r : Request) : Check → Option FatalError
  | .format =>
    if (ReportFormat.ofName? r.format).isNone then some (.unknownFormat r.format) else none
  | .readable =>
    let path := FilePath.join (r.projectRoot fs) Settings.fileName
    if fs.isThere path then (DotJs.fault? (fs.read path)).map fun f => .settings (.unreadable f)
    else none
  | .parsable =>
    match fs.read (FilePath.join (r.projectRoot fs) Settings.fileName) with
    | .ok text => (DotJs.fault? (Settings.read text)).map fun f => .settings (.unparsable f)
    | .error _ => none
  | .pattern text => if (Regex.parse? text).isNone then some (.invalidPattern text) else none
  | .target path =>
    if fs.isFile path then none else (DotJs.fault? (Discovery.reached fs path)).map .walk

namespace Request

/-- The settings in the settings file, if there is one that can be read, and else the `default`
ones. With a file that cannot be read, an earlier check has failed. -/
def fileSettings (fs : FileSystem) (r : Request) : Settings :=
  match Settings.load fs (r.projectRoot fs) with
  | .ok s => s
  | .error _ => .default

/-- All texts that have to be patterns: those to force, in the settings file and then in the
options, and those never to force. -/
def patterns (fs : FileSystem) (r : Request) : List Text :=
  (r.fileSettings fs).forceInclude ++ r.rules.forceInclude ++
    (r.fileSettings fs).forceExclude ++ r.rules.forceExclude

/-- All that can be wrong with a request to rewrite, in order. The targets come last, as they are
looked at with the settings. -/
def checks (fs : FileSystem) (r : Request) (paths : List FilePath) : List Check :=
  [.format, .readable, .parsable] ++ (r.patterns fs).map .pattern ++
    (Discovery.targets (r.projectRoot fs) paths).map .target

/-- The first of its `checks` that is wrong with a request to rewrite, if anything is. -/
def firstFault? (fs : FileSystem) (r : Request) (paths : List FilePath) : Option FatalError :=
  (r.checks fs paths).findSome? (Check.fault? fs r)

end Request

variable {r : Request} {purpose : Purpose} {c : Course} {e : FatalError}

/-! ## What each function reports -/

/-- The settings fail for what is wrong with the settings file: it cannot be read, or it holds no
settings (`Check.readable`, `Check.parsable`). -/
theorem fault?_loadSettings (fs : FileSystem) (r : Request) :
    fault? (loadSettings fs (r.projectRoot fs) r.rules) =
      [Check.readable, .parsable].findSome? (Check.fault? fs r) := by
  simp only [loadSettings, Settings.load, Settings.ofText, List.findSome?_cons, List.findSome?_nil,
    Check.fault?]
  by_cases hthere : fs.isThere (FilePath.join (r.projectRoot fs) Settings.fileName)
  · simp only [if_pos hthere]
    cases fs.read (FilePath.join (r.projectRoot fs) Settings.fileName) with
    | error fault => rfl
    | ok text => cases hread : Settings.read text <;> simp [hread, fault?]
  · obtain ⟨fault, hfault⟩ := FileSystem.read_of_not_isThere hthere
    simp [if_neg hthere, hfault, fault?]

/-- `compilePatterns` fails for the first text that is none. -/
theorem fault?_compilePatterns (fs : FileSystem) (r : Request) (texts : List Text) :
    (fault? (compilePatterns texts)).map .invalidPattern =
      (texts.map .pattern).findSome? (Check.fault? fs r) := by
  induction texts with
  | nil => rfl
  | cons text rest ih =>
    rw [List.map_cons, List.findSome?_cons, ← ih, compilePatterns]
    simp only [Check.fault?]
    cases Regex.parse? text with
    | none => rfl
    | some regex => cases compilePatterns rest <;> rfl

/-- Of the two lists that `Rules.ofPatterns` compiles of patterns, the first comes first. -/
theorem fault?_ofPatterns (fs : FileSystem) (r : Request) (forced excluded : List Text)
    (dynamicImports : Bool) :
    (fault? (Rules.ofPatterns forced excluded dynamicImports)).map .invalidPattern =
      ((forced ++ excluded).map .pattern).findSome? (Check.fault? fs r) := by
  rw [List.map_append, List.findSome?_append, ← fault?_compilePatterns, ← fault?_compilePatterns,
    Rules.ofPatterns]
  cases compilePatterns forced with
  | error text => rfl
  | ok rs => cases compilePatterns excluded <;> rfl

/-- A project fails for what is wrong with the settings file, and then for its patterns. -/
theorem fault?_project (fs : FileSystem) (r : Request) :
    fault? (r.project fs) =
      ([Check.readable, .parsable] ++ (r.patterns fs).map Check.pattern).findSome?
        (Check.fault? fs r) := by
  rw [List.findSome?_append, ← fault?_loadSettings]
  simp only [Request.project, loadSettings, Request.patterns, Request.fileSettings]
  cases hload : Settings.load fs (r.projectRoot fs) with
  | error fault => rfl
  | ok s =>
    rw [List.append_assoc _ s.forceExclude,
      ← fault?_ofPatterns fs r _ _ (s.dynamicImports || r.rules.dynamicImports)]
    simp only [Project.ofSettings, Settings.rules, Settings.extend]
    cases Rules.ofPatterns (s.forceInclude ++ r.rules.forceInclude)
      (s.forceExclude ++ r.rules.forceExclude) (s.dynamicImports || r.rules.dynamicImports) <;> rfl

/-- A target fails when it is no file and cannot be walked through. Settings have no part in
this. -/
theorem fault?_ofTarget (fs : FileSystem) (r : Request) (s : Settings) (target : FilePath) :
    (fault? (Discovery.ofTarget fs s target)).map .walk = Check.fault? fs r (.target target) := by
  simp only [Discovery.ofTarget, Discovery.walk_eq_map_reached, Check.fault?]
  split
  · rfl
  · cases Discovery.reached fs target <;> rfl

/-- Targets fail for the first that does by `fault?_ofTarget`. -/
theorem fault?_ofTargets (fs : FileSystem) (r : Request) (s : Settings) (targets : List FilePath) :
    (fault? (Discovery.ofTargets fs s targets)).map .walk =
      (targets.map .target).findSome? (Check.fault? fs r) := by
  induction targets with
  | nil => rfl
  | cons target rest ih =>
    rw [List.map_cons, List.findSome?_cons, ← ih, ← fault?_ofTarget fs r s, Discovery.ofTargets]
    cases Discovery.ofTarget fs s target with
    | error fault => rfl
    | ok files => cases Discovery.ofTargets fs s rest <;> rfl

/-- A run fails for a target, as no work can: a file that cannot be read is reported and no fault. A
write that fails is a step of `Course` instead. -/
theorem fault?_run (fs : FileSystem) (p : Project) (paths : List FilePath) (mode : WriteMode) :
    fault? (p.run fs paths mode) =
      fault? (Discovery.ofTargets fs p.settings (Discovery.targets p.root paths)) := by
  rw [Project.run, discover]
  cases Discovery.ofTargets fs p.settings (Discovery.targets p.root paths) <;> rfl

/-- **A request to rewrite fails for the first that is wrong**, and only then. This joins the lemmas
on the functions that `perform` is made of. -/
theorem fault?_perform (fs : FileSystem) (r : Request) (paths : List FilePath)
    (purpose : Purpose) :
    fault? (perform fs (r.rewriting paths purpose)) = r.firstFault? fs paths := by
  rw [perform_rewriting, Request.firstFault?, Request.checks, List.findSome?_append,
    List.cons_append, List.findSome?_cons, ← fault?_project]
  simp only [Check.fault?]
  cases ReportFormat.ofName? r.format with
  | none => rfl
  | some format =>
    cases hproject : r.project fs with
    | error e => rfl
    | ok p =>
      rw [← Course.root_of_project hproject, ← fault?_ofTargets fs r p.settings,
        ← fault?_run fs p paths purpose.mode]
      dsimp only
      cases p.run fs paths purpose.mode <;> rfl

/-! ## All ways in which a request can go -/

namespace Course

/-- The work begins only when nothing is wrong (`firstFault?`), the targets included. -/
theorem Working.firstFault?_eq {format : ReportFormat} {p : Project} {fs' : FileSystem}
    {jobs : List Job} (h : Working fs r paths purpose format p fs' jobs) :
    r.firstFault? fs paths = none := by
  obtain ⟨files, hfiles, -⟩ := h.work
  rw [← fault?_perform fs r paths purpose, perform_rewriting, h.format]
  simp only [h.project, Project.run, hfiles]
  rfl

/-- A course that has ended with an error tells the first that is wrong (`firstFault?`). -/
theorem Steps.eq_failed (h : Steps r paths purpose (.start fs) c) (hphase : c.phase = .fatal e) :
    r.firstFault? fs paths = some e ∧ c = .failed fs e := by
  cases h.sound with
  | failed hperform =>
    obtain rfl := Phase.fatal.inj hphase
    rw [← fault?_perform fs r paths purpose]
    exact ⟨fault?_eq_some_iff.mpr hperform, rfl⟩
  | _ => cases hphase

/-- When something is wrong, nothing ever happens that can be seen but the error. -/
theorem Steps.kept (h : Steps r paths purpose (.start fs) c)
    (hfault : r.firstFault? fs paths = some e) :
    c.files = fs ∧ c.output = [] ∧ ((∀ c', ¬ Step r paths purpose c c') → c = .failed fs e) := by
  -- a course that is not at its end has a next step
  have hgoes : c.exit? = none →
      (∀ c', ¬ Step r paths purpose c c') → c = .failed fs e := by
    intro hexit hend
    obtain ⟨c', hstep⟩ := exists_step r paths purpose hexit
    exact absurd hstep (hend c')
  cases h.sound with
  | started => exact ⟨rfl, rfl, hgoes rfl⟩
  | formatted => exact ⟨rfl, rfl, hgoes rfl⟩
  | configured => exact ⟨rfl, rfl, hgoes rfl⟩
  | searching => exact ⟨rfl, rfl, hgoes rfl⟩
  | failed =>
    obtain ⟨hfault', -⟩ := h.eq_failed rfl
    obtain rfl := Option.some.inj (hfault.symm.trans hfault')
    exact ⟨rfl, rfl, fun _ => rfl⟩
  | rewriting hwork => exact nomatch hfault.symm.trans hwork.firstFault?_eq
  | ended hwork => exact nomatch hfault.symm.trans hwork.firstFault?_eq
  | unwritten hwork => exact nomatch hfault.symm.trans hwork.firstFault?_eq

end Course

/-- **A fatal error leaves everything as it was.** Take any file system and any request to rewrite.
If something is wrong, the request ends with the first that is, in the order of `Request.checks`,
and with the exit code 1; nothing is printed but the error and no file has changed. Step by step,
this end can be reached; on no way to it has anything happened that can be seen, whatever there is
to write; and where no step is left the error was told. If nothing is wrong, the request comes to
its end, and no course of it ends with an error. A course that does has told the first that is
wrong, and left everything as it was. What is not meant here is an error in the middle of the work,
at a file that cannot be written. -/
theorem fatal_error_leaves_all (fs : FileSystem) (r : Request) (paths : List FilePath)
    (purpose : Purpose) :
    (∀ e, r.firstFault? fs paths = some e →
      (r.rewriting paths purpose).run fs = ⟨1, [], ["Error: ".toList ++ e.message], fs⟩ ∧
      Course.Steps r paths purpose (.start fs) (.failed fs e) ∧
      ∀ c, Course.Steps r paths purpose (.start fs) c → c.files = fs ∧ c.output = [] ∧
        ((∀ c', ¬ Course.Step r paths purpose c c') → c = .failed fs e)) ∧
    (r.firstFault? fs paths = none →
      ∃ result, perform fs (r.rewriting paths purpose) = .ok result ∧
        (r.rewriting paths purpose).run fs = result ∧
        Course.Steps r paths purpose (.start fs) (.ended result)) ∧
    ∀ c e, Course.Steps r paths purpose (.start fs) c → c.phase = .fatal e →
      r.firstFault? fs paths = some e ∧ c = .failed fs e ∧ c.exit? = some 1 := by
  have hperform := fault?_perform fs r paths purpose
  refine ⟨fun e he => ?_, fun hnone => ?_, fun c e hsteps hphase => ?_⟩
  · rw [he] at hperform
    have herror := fault?_eq_some_iff.mp hperform
    refine ⟨?_, Course.steps_failed herror, fun c hsteps => hsteps.kept he⟩
    rw [Request.run, herror]
  · rw [hnone] at hperform
    obtain ⟨result, hresult⟩ := fault?_eq_none_iff.mp hperform
    refine ⟨result, hresult, ?_, Course.steps_ended hresult⟩
    rw [Request.run, hresult]
  · obtain ⟨hfault, rfl⟩ := hsteps.eq_failed hphase
    exact ⟨hfault, rfl, rfl⟩

/-- A file that would be rewritten, beside a target that leads nowhere, an option that is no pattern
and a settings file with another one. The option comes first. -/
theorem fatal_error_leaves_all_pattern :
    let fs : FileSystem :=
      ⟨[(["p", ".jsextrc.json"].map String.toList,
          .text "\x7b \"forceExclude\": \"[\" \x7d".toList),
        (["p", "a.ts"].map String.toList, .text "import './b'".toList)], [], ["p".toList]⟩
    let arguments := ["rewrite", "--write", "--force-include", "(", "a.ts", "missing"]
    let r : Request := ⟨.explain [], none, "list".toList, ⟨["(".toList], [], false⟩, false⟩
    let paths := ["a.ts", "missing"].map String.toList
    Request.ofArguments (arguments.map String.toList) = .ok (r.rewriting paths .write) ∧
      (rewriteFile fs .none "/p/a.ts".toList).toOption.map (·.isChanged) = some true ∧
      (r.checks fs paths).filterMap (Check.fault? fs r) =
        [.invalidPattern "(".toList, .invalidPattern "[".toList,
          .walk (.unreachable "/p/missing".toList .notFound)] ∧
      (r.rewriting paths .write).run fs =
        ⟨1, [], ["Error: Invalid pattern '('".toList], fs⟩ ∧
      ∀ c, Course.Steps r paths .write (.start fs) c → c.files = fs ∧ c.output = [] := by
  intro fs arguments r paths
  have hfault : r.firstFault? fs paths = some (.invalidPattern "(".toList) := by decide +kernel
  obtain ⟨hrun, -, hkept⟩ := (fatal_error_leaves_all fs r paths .write).1 _ hfault
  refine ⟨eq_ok_of_toOption (by decide +kernel), by decide +kernel, by decide +kernel, hrun,
    fun c hsteps => ?_⟩
  obtain ⟨hfiles, houtput, -⟩ := hkept c hsteps
  exact ⟨hfiles, houtput⟩

end CommandLine

end DotJs
