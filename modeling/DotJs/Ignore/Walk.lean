import DotJs.FileSystem
import DotJs.Ignore.Rule

/-!
# Which entries a walk skips

A walk through a directory asks of every entry below it whether it is looked at. Ignore
files decide, from the innermost directory outwards, those of the directories above the
walk included: `.ignore` files first, then `.gitignore` files, then the exclude lists of
repositories. The last two count only inside a repository, and only up to its root.
Where they say nothing, names that start with a dot are skipped.

A file is found when it and all directories on the way to it are looked at.
-/

namespace DotJs

namespace Ignore

/-- Where in a directory the ignore file is that counts everywhere, in a repository or not:
`.ignore`. -/
def ownFile : Location := [".ignore".toList]

/-- Where in a directory the ignore file is that counts in repositories: `.gitignore`. -/
def sharedFile : Location := [".gitignore".toList]

/-- Where in the root of a repository its exclude list is. It is asked last, behind `sharedFile`. -/
def excludeList : Location := [".git".toList, "info".toList, "exclude".toList]

/-- The directories above a location, the innermost first, each with the path of the location as
seen from it: rules are about such paths. The root of the file system is the last of them. -/
def directoriesAbove (l : Location) : List (Location × Location) :=
  ((List.range l.length).reverse).map fun n => (l.take n, l.drop n)

/-- The elements of a list up to and including the first with a property: of the directories above a
location, those that are in its repository. -/
def upTo {α : Type} (p : α → Bool) : List α → List α
  | [] => []
  | x :: rest => if p x then [x] else x :: upTo p rest

/-- The lines of the ignore file at a location, if there is one (`linesOf`). A missing file and an
empty one say the same. -/
def linesAt (fs : FileSystem) (l : Location) : List Text :=
  ((fs.contentAt? l).map linesOf).getD []

/-- What the first of some directories with an ignore file about a location says. The ignore file is
known by its path in the directory. An outer directory is asked only where all inner ones say
nothing. -/
def decisionIn (fs : FileSystem) (ignoreFile : Location) (isDirectory : Bool) :
    List (Location × Location) → Option Decision
  | [] => none
  | (directory, path) :: outer =>
    match decide? (Rule.ofLines (linesAt fs (directory ++ ignoreFile))) path isDirectory with
    | some d => some d
    | none => decisionIn fs ignoreFile isDirectory outer

/-- Whether a directory is the root of a repository, that is, whether there is a `.git` of any kind
in it. -/
def isRepository (fs : FileSystem) (directory : Location) : Bool :=
  fs.isEntry (directory ++ [".git".toList])

/-- What the ignore files (`decisionIn`) say about a location: first those that count everywhere,
then those of the repository, if the location is in one, and then its exclude list. Each kind is
asked in all directories before the next one is. -/
def decision? (fs : FileSystem) (l : Location) : Option Decision :=
  let directories := directoriesAbove l
  let isDirectory := fs.isDirectory l
  let inRepository :=
    if directories.any (fun d => isRepository fs d.1) then
      upTo (fun d => isRepository fs d.1) directories
    else
      []
  (decisionIn fs ownFile isDirectory directories).or
    ((decisionIn fs sharedFile isDirectory inRepository).or
      (decisionIn fs excludeList isDirectory inRepository))

/-- The lines that cannot be read in the ignore files above a location, outermost directory first.
They are what makes a walk from there fail (`Discovery.walk`), while faulty lines below it are
passed over. -/
def faultsAbove (fs : FileSystem) (l : Location) : List (Location × LineFault) :=
  (directoriesAbove l).reverse.flatMap fun (directory, _) =>
    [ownFile, sharedFile, excludeList].flatMap fun ignoreFile =>
      (faults 1 (linesAt fs (directory ++ ignoreFile))).map fun f => (directory ++ ignoreFile, f)

/-- Whether a name is hidden, that is, starts with a `.`. It matters only where no ignore file says
anything. -/
def isHidden (l : Location) : Bool :=
  match l.getLast? with
  | some ('.' :: _) => true
  | _ => false

/-- Whether a walk looks at a location: by what the ignore files say (`Ignore.decision?`), and by
its name where they say nothing. The directories above it have to be looked at as well, which
`FileSystem.walkedFiles` asks. -/
def isLookedAt (fs : FileSystem) (l : Location) : Bool :=
  match decision? fs l with
  | some .keep => true
  | some .skip => false
  | none => !isHidden l

end Ignore

/-- The files that a walk through a directory finds, as seen from it: those for which every location
on the way, from the one just below the directory to the file itself, is looked at (`isLookedAt`).
It is a condition on each file and not a walk from directory to directory: a directory that is there
can always be listed here, so that no order of walking shows in what is found. -/
def FileSystem.walkedFiles (fs : FileSystem) (directory : Location) : List Location :=
  (fs.filesBelow directory).filter fun path =>
    (List.range path.length).all fun n => Ignore.isLookedAt fs (directory ++ path.take (n + 1))

end DotJs
