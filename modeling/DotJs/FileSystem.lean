import DotJs.FilePath

/-!
# File systems

A file system as far as a run can see it: which files there are, what they hold and
which directories there are besides. A file or directory is known by its `Location`, the
names on the way from the root. Whatever lies on the way to something else is a
directory, so that no location can have a file above it.

* `FileSystem.resolve` follows a path to its location, one segment at a time;
* `FileSystem.read` and `FileSystem.write` are about files that a path leads to;
* `FileSystem.filesBelow` lists the files below a directory.

The lemmas say what a write changes: the text of one file, and the place of none.
-/

namespace DotJs

/-- The names on the way from the root to a file or directory. There are no links, so that a
location is all there is to know of where something is: two different ones are two different
files. -/
abbrev Location := List Text

/-- The absolute `FilePath` that leads to a location from anywhere, as faults of ignore files print
it. -/
def Location.path (l : Location) : FilePath := if l = [] then ['/'] else l.flatMap ('/' :: ·)

/-- What a file holds. Texts are apart from other bytes because only they can be rewritten: reading
a `binary` file is a fault (`PathFault.notText`), while its name is listed like any other. -/
inductive Content where
  /-- a text, in UTF-8 -/
  | text (t : Text)
  /-- bytes that are no text -/
  | binary (bytes : List UInt8)
  deriving DecidableEq, Repr

/-- Why a path leads to nothing that can be read. There is no fault for a file that may not be read
or written: whoever runs may do both with all that is there. -/
inductive PathFault where
  /-- some name on the way is not there -/
  | notFound
  /-- a file stands where a directory has to -/
  | notDirectory
  /-- it leads to a directory -/
  | isDirectory
  /-- it leads to a file that is no text -/
  | notText
  deriving DecidableEq, Repr

/-- The wording of a `PathFault`, which is the one of the operating system for the first three. -/
def PathFault.message : PathFault → Text
  | .notFound => "No such file or directory (os error 2)".toList
  | .notDirectory => "Not a directory (os error 20)".toList
  | .isDirectory => "Is a directory (os error 21)".toList
  | .notText => "stream did not contain valid UTF-8".toList

/-- A file system and the directory from which relative paths start. Files are given by location,
and a directory is there when something lies below it or it is listed in `directories`. Nothing
keeps a location from being listed twice or below a file; `FileSystem.contentAt?` and
`FileSystem.isDirectory` say what such a list comes to, so that all of them are file systems. -/
structure FileSystem where
  /-- the files -/
  files : List (Location × Content)
  /-- the directories that are there even when empty -/
  directories : List Location
  /-- the current directory -/
  current : Location
  deriving DecidableEq, Repr

namespace FileSystem

/-- Whether a location is on the way to another one, and not that location itself. -/
def isAbove (above l : Location) : Bool := above.isPrefixOf l && above.length < l.length

/-- Whether there is a directory at a location: the root, one that is listed or on the way to a
listed one, or one on the way to a file. -/
def isDirectory (fs : FileSystem) (l : Location) : Bool :=
  l == [] || fs.directories.any (fun d => l.isPrefixOf d) || fs.files.any fun f => isAbove l f.1

/-- What the file at a location holds, if there is one. Where a location is a directory, no file
counts, and of two files listed at one location the first does. -/
def contentAt? (fs : FileSystem) (l : Location) : Option Content :=
  if fs.isDirectory l then none else fs.files.lookup l

/-- Whether there is a file at a location, of any content. -/
def isFileAt (fs : FileSystem) (l : Location) : Bool := (fs.contentAt? l).isSome

/-- Whether there is anything at a location, a file or a directory: what a name in a path has to
lead to. -/
def isEntry (fs : FileSystem) (l : Location) : Bool := fs.isDirectory l || fs.isFileAt l

/-! ## Following paths -/

/-- One step from a location. An empty segment and `.` stay, but only in a directory; `..` goes up,
and at the root it stays. That every segment asks for a directory to start from is why `a.ts/.`
leads nowhere. -/
def step (fs : FileSystem) (l : Location) (segment : Text) : Except PathFault Location :=
  if !fs.isDirectory l then .error .notDirectory
  else
    match Component.ofSegment? segment with
    | none => .ok l
    | some .parent => .ok l.dropLast
    | some (.name name) =>
      if fs.isEntry (l ++ [name]) then .ok (l ++ [name]) else .error .notFound
    | some _ => .ok l

/-- Steps along segments, up to the first that fails. Each step starts where the one before has led,
so that a `..` behind a name that is not there is a fault and does not cancel it. -/
def walkAlong (fs : FileSystem) : Location → List Text → Except PathFault Location
  | l, [] => .ok l
  | l, s :: rest =>
    match fs.step l s with
    | .error e => .error e
    | .ok l => walkAlong fs l rest

/-- The location that a path leads to. The text of a path is followed segment by segment
(`FileSystem.walkAlong`) and is not simplified before, because whether `src/../a.ts` leads to a file
hangs on there being a directory `src`. The empty path leads nowhere. -/
def resolve (fs : FileSystem) (path : FilePath) : Except PathFault Location :=
  if path = [] then .error .notFound
  else
    fs.walkAlong (if FilePath.isAbsolute path then [] else fs.current) (FilePath.segments path)

/-- Whether a path leads (`resolve`) to anything, be it a file or a directory. -/
def isThere (fs : FileSystem) (path : FilePath) : Bool :=
  match fs.resolve path with
  | .ok _ => true
  | .error _ => false

/-- Whether a path leads (`resolve`) to a file. A path that leads nowhere leads to none, and the
fault is told by whoever walks from it. -/
def isFile (fs : FileSystem) (path : FilePath) : Bool :=
  match fs.resolve path with
  | .ok l => fs.isFileAt l
  | .error _ => false

/-! ## Reading and writing -/

/-- The text of the file that a path leads to (`resolve`), or why there is none. It is the only way
in which a run looks at contents. -/
def read (fs : FileSystem) (path : FilePath) : Except PathFault Text :=
  match fs.resolve path with
  | .error e => .error e
  | .ok l =>
    match fs.contentAt? l with
    | some (.text t) => .ok t
    | some (.binary _) => .error .notText
    | none => .error .isDirectory

/-- Replaces what the file at a location holds. Where no file is listed, nothing happens: the list
keeps its locations in their order, so that no update changes what `discover` finds there. -/
def update (fs : FileSystem) (l : Location) (c : Content) : FileSystem :=
  { fs with files := fs.files.map fun f => if f.1 = l then (l, c) else f }

/-- Writes a text to the file that a path leads to. There has to be one, and then it takes the text:
writing cannot fail here, and it never makes a file. That is enough for a run, which writes only
what it has read; a write that fails is a step of its own in `Course.Step`. -/
def write (fs : FileSystem) (path : FilePath) (text : Text) : FileSystem :=
  match fs.resolve path with
  | .error _ => fs
  | .ok l => fs.update l (.text text)

/-! ## What a write changes -/

theorem isDirectory_update (fs : FileSystem) (l l' : Location) (c : Content) :
    (fs.update l c).isDirectory l' = fs.isDirectory l' := by
  have h : ((fs.update l c).files.any fun f => isAbove l' f.1)
      = fs.files.any fun f => isAbove l' f.1 := by
    simp only [update, List.any_map]
    congr 1
    funext f
    simp only [Function.comp]
    split
    · next h => rw [h]
    · rfl
  unfold isDirectory
  rw [h]
  rfl

theorem lookup_update_self {files : List (Location × Content)} {l : Location} (c : Content)
    (h : (files.lookup l).isSome) :
    (files.map fun f => if f.1 = l then (l, c) else f).lookup l = some c := by
  induction files with
  | nil => simp at h
  | cons f rest ih =>
    obtain ⟨l', c'⟩ := f
    by_cases hl : l' = l
    · simp [hl]
    · have hb : (l == l') = false := by simpa using fun e => hl e.symm
      rw [List.lookup_cons, hb] at h
      simp only [List.map_cons, if_neg hl, List.lookup_cons, hb]
      exact ih h

theorem lookup_update_of_ne {l l' : Location} (c : Content) (h : l' ≠ l)
    (files : List (Location × Content)) :
    (files.map fun f => if f.1 = l then (l, c) else f).lookup l' = files.lookup l' := by
  induction files with
  | nil => rfl
  | cons f rest ih =>
    obtain ⟨k, c'⟩ := f
    by_cases hk : k = l
    · have hb : (l' == k) = false := by simpa [hk] using h
      have hb' : (l' == l) = false := by simpa using h
      simp only [List.map_cons, if_pos hk, List.lookup_cons, hb, hb']
      exact ih
    · simp only [List.map_cons, if_neg hk, List.lookup_cons, ih]

/-- A file that is there holds afterwards what was written to it. -/
theorem contentAt?_update_self {fs : FileSystem} {l : Location} (c : Content)
    (h : fs.isFileAt l) : (fs.update l c).contentAt? l = some c := by
  unfold isFileAt contentAt? at h
  unfold contentAt?
  rw [isDirectory_update]
  split at h
  · simp at h
  · next hd =>
    rw [if_neg hd]
    exact lookup_update_self c h

/-- No other file changes. Files are told apart by location here; of paths this holds only if they
lead to different ones. -/
theorem contentAt?_update_of_ne {fs : FileSystem} {l l' : Location} (c : Content)
    (h : l' ≠ l) : (fs.update l c).contentAt? l' = fs.contentAt? l' := by
  unfold contentAt?
  rw [isDirectory_update]
  split
  · rfl
  · exact lookup_update_of_ne c h fs.files

theorem isSome_lookup_update {l : Location} (c : Content) (l' : Location)
    (files : List (Location × Content)) :
    ((files.map fun f => if f.1 = l then (l, c) else f).lookup l').isSome =
      (files.lookup l').isSome := by
  by_cases hl : l' = l
  · subst hl
    induction files with
    | nil => rfl
    | cons f rest ih =>
      obtain ⟨k, c'⟩ := f
      by_cases hk : k = l'
      · simp [hk]
      · have hb : (l' == k) = false := by simpa using fun e => hk e.symm
        simp only [List.map_cons, if_neg hk, List.lookup_cons, hb]
        exact ih
  · rw [lookup_update_of_ne c hl]

theorem isFileAt_update (fs : FileSystem) (l l' : Location) (c : Content) :
    (fs.update l c).isFileAt l' = fs.isFileAt l' := by
  unfold isFileAt contentAt?
  rw [isDirectory_update]
  split
  · rfl
  · exact isSome_lookup_update c l' fs.files

theorem step_update (fs : FileSystem) (l l' : Location) (c : Content) (segment : Text) :
    (fs.update l c).step l' segment = fs.step l' segment := by
  unfold step isEntry
  simp only [isDirectory_update, isFileAt_update]

theorem walkAlong_update (fs : FileSystem) (l l' : Location) (c : Content)
    (segments : List Text) : (fs.update l c).walkAlong l' segments = fs.walkAlong l' segments := by
  induction segments generalizing l' with
  | nil => rfl
  | cons s rest ih =>
    unfold walkAlong
    rw [step_update]
    cases fs.step l' s with
    | error e => rfl
    | ok l'' => exact ih l''

/-- Every path leads where it led before, since an `update` changes no location. All that is said of
one file system about where paths lead is thereby said of all that a run goes through. -/
theorem resolve_update (fs : FileSystem) (l : Location) (c : Content) (path : FilePath) :
    (fs.update l c).resolve path = fs.resolve path := by
  unfold resolve
  rw [walkAlong_update]
  rfl

/-! ## Building -/

/-- Puts a file at a location, in place of one that was there. It is for building file systems,
while `FileSystem.write` is what a run does. -/
def put (fs : FileSystem) (l : Location) (c : Content) : FileSystem :=
  { fs with files := fs.files.filter (fun f => f.1 ≠ l) ++ [(l, c)] }

/-- Makes a directory, which is then there even if nothing is put into it. -/
def makeDirectory (fs : FileSystem) (l : Location) : FileSystem :=
  { fs with directories := l :: fs.directories }

/-- Takes away what is at a location, with all that lies below. The directory that it was in
stays. -/
def remove (fs : FileSystem) (l : Location) : FileSystem :=
  { fs with
    files := fs.files.filter fun f => !l.isPrefixOf f.1
    directories := l.dropLast :: fs.directories.filter fun d => !l.isPrefixOf d }

/-- The files below a directory, as seen from it, in the order in which they are listed. Only
locations that hold a file are among them (`FileSystem.isFileAt`). -/
def filesBelow (fs : FileSystem) (directory : Location) : List Location :=
  (fs.files.filter fun f => isAbove directory f.1 && fs.isFileAt f.1).map
    fun f => f.1.drop directory.length

end FileSystem

end DotJs
