import DotJs.Glob
import DotJs.Settings

/-!
# The scope of a project

A file found below a directory belongs to a project when its extension is one of the
project's and no ignore pattern holds of its path. Texts among the ignore patterns that
are no patterns hold of nothing. Installed packages never belong to a project.
-/

namespace DotJs.Settings

/-- Whether a file has one of the extensions that are looked at. The extension is that of
`FilePath.stemAndExtension?`, so that a file that is named `.ts` has none. -/
def supports (s : Settings) (path : FilePath) : Bool :=
  match FilePath.stemAndExtension? path with
  | none => false
  | some (_, extension) => s.extensions.contains ('.' :: extension)

/-- The name of the directories that hold installed packages, `node_modules`. It is no pattern and
cannot be switched off by settings. -/
def packages : Text := "node_modules".toList

/-- Whether a file is passed over: some pattern holds of its whole path, as `Glob.admits` has it, or
the path has `packages` somewhere in it. The path is the one that the walk came along, the root of
the project included, so that where the project lies can matter. -/
def ignores (s : Settings) (path : FilePath) : Bool :=
  s.ignorePatterns.any (fun p => (Glob.parse? p).any fun g => g.admits path)
    || packages.isPartOf path

end DotJs.Settings
