import DotJs.FileSystem
import DotJs.Settings

/-!
# The settings file of a project

The settings stand in one file in the root of a project. Without it, the defaults hold.
-/

namespace DotJs

/-- Why there are no settings. A missing file is no fault: `Settings.load` has the defaults for
it. -/
inductive SettingsFault where
  /-- the file cannot be read -/
  | unreadable (fault : PathFault)
  /-- the file does not hold settings -/
  | unparsable (fault : Json.Fault)
  deriving DecidableEq, Repr

/-- The wording of a `SettingsFault`, as it is printed when a run ends because of it. -/
def SettingsFault.message : SettingsFault → Text
  | .unreadable fault => "Failed to read config: ".toList ++ fault.message
  | .unparsable fault => "Failed to parse config: ".toList ++ fault.message

namespace Settings

/-- The name of the settings file, which is looked for in the root of the project and nowhere
else. -/
def fileName : Text := ".jsextrc.json".toList

/-- The settings that a text holds: `Settings.read` with its fault as one of a settings file. -/
def ofText (text : Text) : Except SettingsFault Settings :=
  match read text with
  | .error fault => .error (.unparsable fault)
  | .ok settings => .ok settings

/-- The settings of the project with a given root. Only a path that leads nowhere means the defaults
(`Settings.default`); one that leads to a directory is a file that cannot be read. -/
def load (fs : FileSystem) (root : FilePath) : Except SettingsFault Settings :=
  let path := FilePath.join root fileName
  if fs.isThere path then
    match fs.read path with
    | .error fault => .error (.unreadable fault)
    | .ok text => ofText text
  else
    .ok default

end Settings

end DotJs
