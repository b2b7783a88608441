import DotJs.Discovery
import DotJs.Rewriting

/-!
# Batch runs

A run rewrites the files of a project one after the other. Each file is a job of two
steps: it is read and rewritten, and then, if anything changed and the run may write, it
is written. A file that cannot be read or is no program is reported and left alone.

* `rewriteFile` is the first step, `FileSystem.commit` the second;
* `run` goes through all files and sums up what happened.
-/

namespace DotJs

/-- Why a file was not rewritten. A fault is about one file and is reported with it, while a
`WalkFault` ends the run before any file is looked at. -/
inductive FileFault where
  /-- it cannot be read -/
  | unreadable (fault : PathFault)
  /-- it is no program -/
  | noProgram
  deriving DecidableEq, Repr

/-- The wording of a fault, as reports print it. What a parser has to say about a text is not part
of this library, so that the message of `noProgram` ends where that would start. -/
def FileFault.message : FileFault → Text
  | .unreadable fault => "Failed to read file: ".toList ++ fault.message
  | .noProgram => "Failed to parse file: ".toList

/-- Whether a run may change files. Both kinds of run do the same up to `FileSystem.commit`, so that
a `dryRun` reports what `write` would do. -/
inductive WriteMode where
  /-- it only reports -/
  | dryRun
  /-- it writes what it rewrites -/
  | write
  deriving DecidableEq, Repr

/-- What happened to a file. Edits and an error exclude each other in every outcome that
`FileOutcome.ofResult` makes; the type allows both, as the report has a place for both. -/
structure FileOutcome where
  /-- the file -/
  path : FilePath
  /-- what was rewritten -/
  edits : List Edit
  /-- why nothing could be -/
  error : Option Text
  deriving DecidableEq, Repr

/-- Whether anything was rewritten in a file, whether or not it was written: in a `dryRun` it says
what would be. -/
def FileOutcome.isChanged (o : FileOutcome) : Bool := !o.edits.isEmpty

/-- Whether a file could not be rewritten, that is, could not be read or is no program
(`FileFault`). -/
def FileOutcome.isFailed (o : FileOutcome) : Bool := o.error.isSome

/-- What a run did. Files in which nothing was to be done are counted in `scanned` and not listed,
so that the number of those is all that is known of them. -/
structure Summary where
  /-- the number of files that it was about -/
  scanned : Nat
  /-- those of them that were rewritten or could not be -/
  files : List FileOutcome
  deriving DecidableEq, Repr

namespace Summary

/-- The files in which something was rewritten. By their number a check decides on its exit code. -/
def changedFiles (s : Summary) : List FileOutcome := s.files.filter (·.isChanged)

/-- The files that could not be rewritten. They have no edits, so that no file is in `changedFiles`
too. -/
def failedFiles (s : Summary) : List FileOutcome := s.files.filter (·.isFailed)

/-- The number of rewritten specifiers, that is, of `edits`, in all files together. -/
def totalEdits (s : Summary) : Nat := (s.files.flatMap fun f => f.edits).length

end Summary

/-- Reads and rewrites a file, in the language that `Language.ofPath` sees in its name. Nothing is
written here: that is left to `FileSystem.commit`, so that runs whose steps interleave can be told
from these two steps. -/
def rewriteFile (fs : FileSystem) (rules : Rules) (path : FilePath) : Except FileFault Output :=
  match fs.read path with
  | .error fault => .error (.unreadable fault)
  | .ok source =>
    match rewriteSource rules (Language.ofPath path) source with
    | none => .error .noProgram
    | some output => .ok output

/-- What happened to a file, in the words of a report: the edits of an `Output`, or the message of a
`FileFault` and no edits. -/
def FileOutcome.ofResult (path : FilePath) : Except FileFault Output → FileOutcome
  | .ok output => ⟨path, output.edits, none⟩
  | .error fault => ⟨path, [], some fault.message⟩

/-- Writes a rewritten file, if anything changed and the run may write. A file system takes what is
written to a file that is there (`FileSystem.write`), so that this step cannot fail; `Course.Step`
has one that does. -/
def FileSystem.commit (fs : FileSystem) (mode : WriteMode) (path : FilePath) :
    Except FileFault Output → FileSystem
  | .ok output => if output.isChanged && mode == .write then fs.write path output.code else fs
  | .error _ => fs

/-- Goes through files one after the other (`rewriteFile`, `commit`), reading each in the file
system that the files before it have left. Two paths to one file therefore see each other's
writes. -/
def processAll (rules : Rules) (mode : WriteMode) :
    FileSystem → List FilePath → FileSystem × List FileOutcome
  | fs, [] => (fs, [])
  | fs, path :: rest =>
    let result := rewriteFile fs rules path
    let (fs, outcomes) := processAll rules mode (fs.commit mode path result) rest
    (fs, FileOutcome.ofResult path result :: outcomes)

/-- The order of outcomes in reports: that of their paths (`FilePath.le`). -/
def FileOutcome.le (a b : FileOutcome) : Bool := FilePath.le a.path b.path

/-- The summary of what happened to each file. Outcomes may come in any order, as files are done
side by side; sorting them here (`stableSort`) makes the report the same for all orders. -/
def Summary.ofOutcomes (outcomes : List FileOutcome) : Summary :=
  ⟨outcomes.length,
    (stableSort FileOutcome.le outcomes).filter fun o => o.isChanged || o.isFailed⟩

/-- A project: its root, its settings and its rules. The rules are kept beside the settings that
they come from, because compiling them can fail and is done once (`Project.ofSettings`). -/
structure Project where
  /-- the root -/
  root : FilePath
  /-- the settings -/
  settings : Settings
  /-- the rules, as compiled from the settings -/
  rules : Rules
  deriving DecidableEq, Repr

/-- The project with given settings, unless one of their patterns is none; the error is that
pattern. -/
def Project.ofSettings (root : FilePath) (settings : Settings) : Except Text Project :=
  match settings.rules with
  | .error pattern => .error pattern
  | .ok rules => .ok ⟨root, settings, rules⟩

/-- Rewrites the files of a project that some targets stand for: `discover` lists them, `processAll`
goes through them, and `Summary.ofOutcomes` sums up. Only discovery can stop it. A file that cannot
be read is reported and the run goes on, and writing does not fail here (`FileSystem.write`);
`Course` is about runs in which it can. -/
def Project.run (fs : FileSystem) (p : Project) (paths : List FilePath) (mode : WriteMode) :
    Except WalkFault (FileSystem × Summary) :=
  match discover fs p.settings p.root paths with
  | .error e => .error e
  | .ok files =>
    let (fs, outcomes) := processAll p.rules mode fs files
    .ok (fs, Summary.ofOutcomes outcomes)

end DotJs
