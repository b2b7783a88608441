import DotJs.CommandLine.Run

/-!
# The program

Reads what a run can see of the file system, carries the command line out on it, and
writes and prints what comes of it.
-/

namespace DotJs

/-- What bytes hold: a text if they are the UTF-8 form of one, and otherwise themselves. -/
def Content.ofBytes (bytes : ByteArray) : Content :=
  match String.fromUTF8? bytes with
  | some s => .text s.toList
  | none => .binary bytes.toList

namespace CommandLine

/-- The help text, which is also what is printed for arguments that make no sense. -/
def usageText : String :=
  "Append .js extensions to relative ES module specifiers

Usage: jsext [-v | -q] rewrite [OPTIONS] [PATHS]...
       jsext [-v | -q] explain [OPTIONS] <SPECIFIER>

Options:
  -r, --root <ROOT>            Project root directory
  -f, --format <FORMAT>        Output format: list, json
  -w, --write                  Write changes back to disk
      --check                  Exit with a failure code if any file would change
      --force-include <REGEX>  Specifiers to rewrite even when not relative
      --force-exclude <REGEX>  Specifiers never force-included
      --dynamic-imports        Also rewrite import calls with a literal argument
  -v, --verbose                Show debug logs
  -q, --quiet                  Only log errors and suppress summary lines
  -h, --help                   Print help
  -V, --version                Print version
"

/-- Adds to `fs` what stands at a location and below it. Links to directories are not followed, and
installed packages (`Settings.packages`) are left out, as no run looks into them. Only files whose
names are asked for are read; of the others it is enough to know that they are there. -/
partial def scan (reads : Text → Bool) (l : Location) (fs : FileSystem) : IO FileSystem := do
  let path := (← IO.currentDir) / String.ofList (Location.path l)
  if ← path.isDir then
    if (← path.symlinkMetadata).type == .symlink then return fs
    let mut fs := fs.makeDirectory l
    for entry in ← path.readDir do
      let name := entry.fileName.toList
      if name != Settings.packages then fs ← scan reads (l ++ [name]) fs
    return fs
  else if ← path.pathExists then
    let content ← if (l.getLast?.map reads).getD false then
        pure (Content.ofBytes (← IO.FS.readBinFile path))
      else
        pure (.binary [])
    return { fs with files := (l, content) :: fs.files }
  else
    return fs

/-- Adds to `fs` a directory without what is in it, except for the files that matter for everything
below it: ignore files and exclude lists (`Ignore.directoriesAbove`). -/
def scanAbove (l : Location) (fs : FileSystem) : IO FileSystem := do
  let path := (← IO.currentDir) / String.ofList (Location.path l)
  if !(← path.isDir) then return fs
  let mut fs := fs.makeDirectory l
  if ← (path / ".git").isDir then fs := fs.makeDirectory (l ++ [".git".toList])
  for name in [[".ignore"], [".gitignore"], [".git", "info", "exclude"]] do
    fs ← scan (fun _ => true) (l ++ name.map String.toList) fs
  return fs

/-- The locations on the way along the segments of a path, the last one first. A `..` goes up
whether or not there is a directory; `FileSystem.resolve` decides later what is there. -/
def locationsAlong (l : Location) : List Text → List Location
  | [] => [l]
  | s :: rest =>
    let next := match Component.ofSegment? s with
      | some (.name name) => l ++ [name]
      | some .parent => l.dropLast
      | _ => l
    locationsAlong next rest ++ [l]

/-- The locations on the way along a path, from the current directory or the root of the file
system, each of which the `FileSystem` has to know. -/
def locationsOf (fs : FileSystem) (path : FilePath) : List Location :=
  let start := if FilePath.isAbsolute path then [] else fs.current
  locationsAlong start (FilePath.segments path)

/-- What a request can see of the file system. Only this is read before `Request.run` decides
everything else, so that what a run does is told by a `FileSystem`. -/
def scanFor (r : Request) : IO FileSystem := do
  let current := (FilePath.segments (← IO.currentDir).toString.toList).filter (· ≠ [])
  let mut fs : FileSystem := ⟨[], [current], current⟩
  let root := r.root.getD (Location.path current)
  let settingsFile := FilePath.join root Settings.fileName
  for l in (locationsOf fs root).reverse do fs ← scanAbove l fs
  if let some l := (locationsOf fs settingsFile).head? then fs ← scan (fun _ => true) l fs
  let .ok settings := Settings.load fs root | return fs
  let .rewrite paths _ := r.command | return fs
  let reads (name : Text) : Bool :=
    settings.supports name || [".ignore", ".gitignore", "exclude"].contains (String.ofList name)
  for target in Discovery.targets root paths do
    let locations := locationsOf fs target
    for l in locations.drop 1 do
      for n in List.range (l.length + 1) do fs ← scanAbove (l.take n) fs
    if let some l := locations.head? then
      for n in List.range l.length do fs ← scanAbove (l.take n) fs
      fs ← scan reads l fs
  return fs

/-- Writes the files that a run has changed: those whose text is another one in `after`. -/
def writeChanges (before after : FileSystem) : IO Unit := do
  for (l, content) in after.files do
    if let .text t := content then
      if before.contentAt? l != some content then
        IO.FS.writeFile (String.ofList (Location.path l)) (String.ofList t)

end CommandLine

end DotJs

open DotJs CommandLine in
/-- Carries out a command line and returns its exit code. What there is to decide is decided by
`Request.ofArguments` and `Request.run`; around these there is only reading, writing and
printing. -/
def main (arguments : List String) : IO UInt32 := do
  match Request.ofArguments (arguments.map String.toList) with
  | .error .version =>
    IO.print (String.ofList versionText)
    return 0
  | .error .help =>
    IO.print usageText
    return 0
  | .error .misuse =>
    IO.eprint usageText
    return 2
  | .ok request =>
    let before ← scanFor request
    let result := request.run before
    writeChanges before result.files
    IO.print (String.ofList result.output)
    for line in result.messages do IO.eprintln (String.ofList line)
    return UInt32.ofNat result.exit
