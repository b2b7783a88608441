import DotJs.CommandLine.Argument
import DotJs.Report
import DotJs.SettingsFile

/-!
# Running a command line

A command line is carried out on a file system, and leaves behind what it has printed,
an exit code and the file system as it is then.

Before anything else is done, the format is looked up, the settings are read and the
patterns are compiled, in this order; the first of these that fails ends the run, and so
does a target that leads nowhere. A run that ends so prints only why, and changes
nothing.
-/

namespace DotJs.CommandLine

/-- Why a run ends before its work is done. The four kinds are in the order in which a run can meet
them, and each is told before `Project.run` reads or writes a file. -/
inductive FatalError where
  /-- there is no such format -/
  | unknownFormat (name : Text)
  /-- the settings cannot be read -/
  | settings (fault : SettingsFault)
  /-- a text is no pattern -/
  | invalidPattern (pattern : Text)
  /-- the files cannot be listed -/
  | walk (fault : WalkFault)
  deriving DecidableEq, Repr

/-- The wording of an error, behind `Error: ` in the only line that such a run prints. -/
def FatalError.message : FatalError → Text
  | .unknownFormat name => ReportFormat.unknownMessage name
  | .settings fault => fault.message
  | .invalidPattern pattern => "Invalid pattern '".toList ++ pattern ++ ['\'']
  | .walk fault => fault.message

/-- What is printed when the version is asked for. -/
def versionText : Text := "jsext 0.1.0\n".toList

/-- What a run leaves behind: all that can be seen of it from outside. Two runs with the same
`Result` cannot be told apart. -/
structure Result where
  /-- the exit code -/
  exit : Nat
  /-- the standard output -/
  output : Text
  /-- the lines of the standard error output -/
  messages : List Text
  /-- the file system -/
  files : FileSystem
  deriving DecidableEq, Repr

/-- The settings of a project with what the options ask for: those of its settings file
(`Settings.load`), to which options only add. -/
def loadSettings (fs : FileSystem) (root : FilePath) (options : RuleOptions) :
    Except FatalError Settings :=
  match Settings.load fs root with
  | .error fault => .error (.settings fault)
  | .ok s => .ok (s.extend options.forceInclude options.forceExclude options.dynamicImports)

/-- The lines that tell how a run went. They look at counts (`Stats`) only. That nothing has to be
rewritten is said whenever no file is changed, even if some file could not be read: failed files
show in the exit code alone. -/
def statusLines (purpose : Purpose) (s : Stats) : List Text :=
  let changed := Text.ofNat s.changedFiles
  let scanned := Text.ofNat s.scannedFiles
  let done :=
    if purpose = .write then
      ["Rewrote ".toList ++ Text.ofNat s.rewrittenSpecifiers ++ " specifiers in ".toList
        ++ changed ++ " of ".toList ++ scanned ++ " files.".toList]
    else if s.changedFiles = 0 then
      ["All ".toList ++ scanned ++ " files already use explicit extensions.".toList]
    else
      []
  if purpose = .check ∧ s.changedFiles ≠ 0 then
    done ++ [changed ++ " files need rewriting.".toList]
  else
    done

/-- The exit code of a run that came to its end: 1 for a `check` that would change files, 2 for
files that failed, and 0 otherwise. The first of them hides the second. -/
def exitCode (purpose : Purpose) (s : Stats) : Nat :=
  if purpose = .check ∧ s.changedFiles ≠ 0 then 1
  else if s.failedFiles ≠ 0 then 2
  else 0

/-- The mode in which files are processed. A `check` writes no more than a `report` does; the two
differ in what is made of the counts. -/
def Purpose.mode : Purpose → WriteMode
  | .write => .write
  | .report | .check => .dryRun

/-- A text on lines of its own, or nothing for no text, so that a report without lines does not
print an empty one. -/
def printed (text : Text) : Text := if text = [] then [] else text ++ ['\n']

/-- Rewrites files: settings, patterns, files, in this order. The first `FatalError` is the result,
and no file was touched by then; the files of a `Result` are those that `Project.run` leaves. -/
def rewrite (fs : FileSystem) (r : Request) (root : FilePath) (format : ReportFormat)
    (paths : List FilePath) (purpose : Purpose) : Except FatalError Result :=
  match loadSettings fs root r.rules with
  | .error e => .error e
  | .ok settings =>
    match Project.ofSettings root settings with
    | .error pattern => .error (.invalidPattern pattern)
    | .ok project =>
      match project.run fs paths purpose.mode with
      | .error fault => .error (.walk fault)
      | .ok (fs, summary) =>
        .ok
          { exit := exitCode purpose summary.stats
            output := printed (summary.text format root)
            messages := if r.quiet then [] else statusLines purpose summary.stats
            files := fs }

/-- Explains how a specifier would be treated. Settings and patterns can fail as they do for
`rewrite`, but no file of the project is looked at. -/
def explain (fs : FileSystem) (r : Request) (root : FilePath) (format : ReportFormat)
    (specifier : Text) : Except FatalError Result :=
  match loadSettings fs root r.rules with
  | .error e => .error e
  | .ok settings =>
    match settings.rules with
    | .error pattern => .error (.invalidPattern pattern)
    | .ok rules =>
      .ok
        { exit := 0
          output := (Explanation.of rules specifier).text format ++ ['\n']
          messages := []
          files := fs }

/-- Carries out a request. The format is looked up first, so that an unknown one is told even where
settings cannot be read. -/
def perform (fs : FileSystem) (r : Request) : Except FatalError Result :=
  let root := r.root.getD (Location.path fs.current)
  match ReportFormat.ofName? r.format with
  | none => .error (.unknownFormat r.format)
  | some format =>
    match r.command with
    | .rewrite paths purpose => rewrite fs r root format paths purpose
    | .explain specifier => explain fs r root format specifier

/-- Carries out a request to its end, or tells why there is none. A `FatalError` becomes exit code 1
and one line, and leaves the files as they were. -/
def Request.run (fs : FileSystem) (r : Request) : Result :=
  match perform fs r with
  | .ok result => result
  | .error e => ⟨1, [], ["Error: ".toList ++ e.message], fs⟩

end DotJs.CommandLine
