import DotJs.Ignore.Walk
import DotJs.Scope
import DotJs.Sorting

/-!
# Discovery

Which files a run is about. Its targets are paths as seen from the root of the project,
or the root itself. A target that is a file is taken if the project looks at its
extension; a target that is a directory is walked through, and the files that are found
are taken if they are in scope. The files are listed in the order of paths, each once.

A walk fails if its target leads nowhere. Lines of ignore files that cannot be read are
passed over, but not those of the directories above the target: they make it fail too.
-/

namespace DotJs

/-- Why files cannot be listed. Any such fault ends a run before the first file is read. The entries
below a target that has been reached can always be listed here, so that there is no fault for the
middle of a walk. -/
inductive WalkFault where
  /-- a target leads nowhere -/
  | unreachable (target : FilePath) (fault : PathFault)
  /-- some lines cannot be read in the ignore files of the directories above a target -/
  | faultyRules (faults : List (Location × Ignore.LineFault))
  deriving DecidableEq, Repr

/-- The wording of a `WalkFault`, as it is printed when a run ends because of it. Several faults of
ignore files are printed one to a line. -/
def WalkFault.message : WalkFault → Text
  | .unreachable target fault =>
    "Failed to walk directory: ".toList ++ target ++ ": IO error for operation on ".toList
      ++ target ++ ": ".toList ++ fault.message
  | .faultyRules faults =>
    "Failed to walk directory: ".toList ++ Text.join ['\n'] (faults.map fun f =>
      Location.path f.1 ++ ": ".toList ++ f.2.message)

namespace Discovery

/-- The targets of a run: the root if no paths are given, and otherwise the paths as seen from the
root (`FilePath.join`), so that an absolute path is a target by itself. -/
def targets (root : FilePath) (paths : List FilePath) : List FilePath :=
  if paths = [] then [root] else paths.map (FilePath.join root)

/-- Whether a target means the standard input, which holds no files: `-` alone, with or without
slashes behind it, but not behind a `.` component. -/
def isStandardInput (target : FilePath) : Bool := FilePath.components target == [.name ['-']]

/-- The files in scope that a walk from a target finds. The walk is a list of locations below the
target (`FileSystem.walkedFiles`), and the paths are joined to the target as it was given: scope is
asked of these paths, and not of locations, because patterns are held against the text of a path and
reports print it. It fails only where it starts, when the target leads nowhere or a rule above it
cannot be read; what lies below is there to be listed. -/
def walk (fs : FileSystem) (s : Settings) (target : FilePath) : Except WalkFault (List FilePath) :=
  if isStandardInput target then .ok []
  else
    match fs.resolve target with
    | .error fault => .error (.unreachable target fault)
    | .ok l =>
      match Ignore.faultsAbove fs l with
      | [] =>
        .ok (((fs.walkedFiles l).map fun path => path.foldl FilePath.join target).filter fun f =>
          s.supports f && !s.ignores f)
      | faults => .error (.faultyRules faults)

/-- The files of one target. A file that is named is taken whatever `Settings.ignores` says of it,
if its extension is supported; only what a `walk` finds has to be in scope. -/
def ofTarget (fs : FileSystem) (s : Settings) (target : FilePath) :
    Except WalkFault (List FilePath) :=
  if fs.isFile target then .ok (if s.supports target then [target] else [])
  else walk fs s target

/-- The files of some targets, one target after the other (`ofTarget`). The first target that fails
is the one that is told, and then no files are. -/
def ofTargets (fs : FileSystem) (s : Settings) : List FilePath → Except WalkFault (List FilePath)
  | [] => .ok []
  | target :: rest =>
    match ofTarget fs s target with
    | .error e => .error e
    | .ok files =>
      match ofTargets fs s rest with
      | .error e => .error e
      | .ok others => .ok (files ++ others)

end Discovery

/-- The files of a run, in order (`FilePath.le`), and of paths with the same components only one
(`FilePath.same`). Paths are compared by what they say and not by where they lead, so that one file
can be listed under two of them. -/
def discover (fs : FileSystem) (s : Settings) (root : FilePath) (paths : List FilePath) :
    Except WalkFault (List FilePath) :=
  match Discovery.ofTargets fs s (Discovery.targets root paths) with
  | .error e => .error e
  | .ok files => .ok (dropRepeats FilePath.same (stableSort FilePath.le files))

end DotJs
