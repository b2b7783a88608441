import DotJs.Proofs.Rediscovery

/-!
# Joined paths

A walk builds the paths of what it finds by joining names to a directory. Joining works on the
texts of paths, where a slash at the end of the directory makes a difference; the components and the
place that a joined path leads to do not see it.

* `piecesBetween_append_cons` says that a path is split at each of its slashes on its own;
* `FilePath.join_eq` is the only lemma about the text of a joined path. What follows for its
  components is `FilePath.components_join_of_relative`, and `FilePath.components_foldl_join` for
  names;
* `FileSystem.resolve_foldl_join`: a path joined of names leads where the names lead;
* `FileSystem.eq_location_of_resolve`: where a path leads can be told from its components, if it
  leads anywhere.
-/

namespace DotJs

/-! ## Texts between slashes -/

section Pieces

variable {α : Type} [DecidableEq α]

/-- A list without `x` is one piece, the list itself. -/
theorem piecesBetween_of_notMem {x : α} {t : List α} (h : x ∉ t) : piecesBetween x t = [t] := by
  induction t with
  | nil => rfl
  | cons y rest ih =>
    obtain ⟨hy, hrest⟩ := not_or.mp (mt List.mem_cons.mpr h)
    rw [piecesBetween, if_neg (Ne.symm hy), ih hrest]

/-- The pieces on both sides of an `x` do not know of each other, so a path can be cut at any of its
slashes. -/
theorem piecesBetween_append_cons (x : α) (a b : List α) :
    piecesBetween x (a ++ x :: b) = piecesBetween x a ++ piecesBetween x b := by
  induction a with
  | nil => simp [piecesBetween]
  | cons y rest ih =>
    rw [List.cons_append, piecesBetween, piecesBetween, ih]
    split
    · rfl
    · obtain ⟨first, others, hpieces⟩ := List.exists_cons_of_ne_nil (piecesBetween_ne_nil x rest)
      rw [hpieces]
      rfl

end Pieces

/-- Whether a text can be the name of a file or a directory. A listing of a directory has no other
names, but a `FileSystem` here is made of any texts. -/
structure IsName (name : Text) : Prop where
  /-- it counts as a name between two slashes -/
  ofSegment? : Component.ofSegment? name = some (.name name)
  /-- there is no slash in it -/
  notMem : '/' ∉ name

instance (name : Text) : Decidable (IsName name) :=
  decidable_of_iff (Component.ofSegment? name = some (.name name) ∧ '/' ∉ name)
    ⟨fun h => ⟨h.1, h.2⟩, fun h => ⟨h.1, h.2⟩⟩

theorem IsName.ne_nil {name : Text} (h : IsName name) : name ≠ [] := by
  rintro rfl
  cases h.ofSegment?

namespace FilePath

variable {directory path : FilePath} {name : Text}

theorem isAbsolute_eq_false (h : IsName name) : isAbsolute name = false := by
  cases name with
  | nil => rfl
  | cons c t =>
    have hc : c ≠ '/' := fun hc => h.notMem (hc ▸ List.mem_cons_self)
    unfold isAbsolute
    split
    · next hslash => exact absurd (List.cons.inj hslash).1 hc
    · rfl

/-- A path that is not absolute is joined to a directory with one slash between them. A slash at the
end of the directory serves as well, which is why there are two cases. -/
theorem join_eq (hdirectory : directory ≠ []) (hpath : isAbsolute path = false) :
    ∃ stem, join directory path = stem ++ '/' :: path ∧
      (directory = stem ∨ directory = stem ++ ['/']) := by
  unfold join
  rw [hpath, if_neg Bool.false_ne_true, if_neg hdirectory]
  split
  · next hlast =>
    obtain ⟨stem, rfl⟩ := List.getLast?_eq_some_iff.mp hlast
    exact ⟨stem, List.append_assoc .., .inr rfl⟩
  · exact ⟨directory, rfl, .inl rfl⟩

theorem join_ne_nil (hdirectory : directory ≠ []) (hpath : isAbsolute path = false) :
    join directory path ≠ [] := by
  obtain ⟨stem, hjoin, -⟩ := join_eq hdirectory hpath
  rw [hjoin]
  exact List.append_ne_nil_of_right_ne_nil _ (List.cons_ne_nil _ _)

/-- How a path opens is told by its first two characters, a `/` or a `.` that is a segment of its
own. -/
theorem opening?_cons (c : Char) (t : Text) :
    opening? (c :: t) =
      if c = '/' then some .root
      else if c = '.' ∧ t.head?.getD '/' = '/' then some .current
      else none := by
  unfold opening?
  split <;> simp_all
  rintro rfl
  cases t with
  | nil => simp_all
  | cons d t => simp_all

/-- A slash and what stands behind it do not matter to how a path opens (`opening?`). -/
theorem opening?_append_slash (hpath : path ≠ []) (t : Text) :
    opening? (path ++ '/' :: t) = opening? path := by
  obtain ⟨c, rest, rfl⟩ := List.exists_cons_of_ne_nil hpath
  have hnext : (rest ++ '/' :: t).head?.getD '/' = rest.head?.getD '/' := by
    cases rest <;> rfl
  rw [List.cons_append, opening?_cons, opening?_cons, hnext]

/-- A joined path opens like the directory. -/
theorem opening?_join (hdirectory : directory ≠ []) (hpath : isAbsolute path = false) :
    opening? (join directory path) = opening? directory := by
  obtain ⟨stem, hjoin, rfl | rfl⟩ := join_eq hdirectory hpath
  · rw [hjoin, opening?_append_slash hdirectory]
  · rw [hjoin]
    cases stem with
    | nil => rfl
    | cons c rest =>
      rw [opening?_append_slash (List.cons_ne_nil c rest),
        opening?_append_slash (List.cons_ne_nil c rest)]

/-- Only absolute paths open with the root. -/
theorem isAbsolute_iff : isAbsolute path ↔ opening? path = some .root := by
  cases path with
  | nil => simp [isAbsolute, opening?]
  | cons c t =>
    rw [opening?_cons]
    by_cases hc : c = '/'
    · simp [isAbsolute, hc]
    · simp only [isAbsolute, if_neg hc]
      split <;> simp_all

/-- The segments of a joined path are those of the directory up to an empty one, and the name. The
empty one stands behind a slash at the end of the directory, and does not count. -/
theorem segments_join (hdirectory : directory ≠ []) (hname : IsName name) :
    ∃ stem, segments (join directory name) = stem ++ [name] ∧
      (segments directory = stem ∨ segments directory = stem ++ [[]]) := by
  obtain ⟨stem, hjoin, hstem⟩ := join_eq hdirectory (isAbsolute_eq_false hname)
  refine ⟨segments stem, ?_, hstem.imp (fun h => by rw [h]) fun h => ?_⟩
  · rw [hjoin, segments, piecesBetween_append_cons, piecesBetween_of_notMem hname.notMem]
    rfl
  · rw [h, segments, piecesBetween_append_cons]
    rfl

/-- The components of a path behind the one that opens it. Unlike `components`, they do not depend
on what stands before a cut. -/
def counted (path : FilePath) : List Component := (segments path).filterMap Component.ofSegment?

theorem components_eq (path : FilePath) :
    components path = (opening? path).toList ++ counted path := rfl

theorem counted_append_slash (s t : Text) : counted (s ++ '/' :: t) = counted s ++ counted t := by
  rw [counted, segments, piecesBetween_append_cons, List.filterMap_append]
  rfl

/-- Joining a path that is not absolute adds its components. A `.` that opens it does not count. -/
theorem components_join_of_relative (hdirectory : directory ≠ [])
    (hpath : isAbsolute path = false) :
    components (join directory path) = components directory ++ counted path := by
  obtain ⟨stem, hjoin, hstem⟩ := join_eq hdirectory hpath
  have hcounted : counted directory = counted stem := by
    rcases hstem with rfl | rfl
    · rfl
    · rw [counted_append_slash]
      exact List.append_nil _
  rw [components_eq, components_eq directory, opening?_join hdirectory hpath, hjoin,
    counted_append_slash, hcounted, List.append_assoc]

/-- Joining a name adds a component `.name`, whether or not the directory ends with a slash. -/
theorem components_join (hdirectory : directory ≠ []) (hname : IsName name) :
    components (join directory name) = components directory ++ [.name name] := by
  rw [components_join_of_relative hdirectory (isAbsolute_eq_false hname), counted, segments,
    piecesBetween_of_notMem hname.notMem]
  simp [hname.ofSegment?]

variable {names : Location}

/-- Joining names adds a component for each of them. A walk joins the names on its way in this
manner. -/
theorem components_foldl_join (hdirectory : directory ≠ []) (hnames : ∀ name ∈ names, IsName name) :
    components (names.foldl join directory) = components directory ++ names.map .name := by
  induction names generalizing directory with
  | nil => exact (List.append_nil _).symm
  | cons name rest ih =>
    obtain ⟨hname, hrest⟩ := List.forall_mem_cons.mp hnames
    rw [List.foldl_cons, ih (join_ne_nil hdirectory (isAbsolute_eq_false hname)) hrest,
      components_join hdirectory hname,
      List.append_assoc]
    rfl

theorem opening?_foldl_join (hdirectory : directory ≠ []) (hnames : ∀ name ∈ names, IsName name) :
    opening? (names.foldl join directory) = opening? directory := by
  induction names generalizing directory with
  | nil => rfl
  | cons name rest ih =>
    obtain ⟨hname, hrest⟩ := List.forall_mem_cons.mp hnames
    rw [List.foldl_cons, ih (join_ne_nil hdirectory (isAbsolute_eq_false hname)) hrest,
      opening?_join hdirectory (isAbsolute_eq_false hname)]

/-- The segments of a path joined of names end in the names, and are otherwise those of the
directory up to an empty one. -/
theorem segments_foldl_join (hdirectory : directory ≠ []) (hnames : ∀ name ∈ names, IsName name) :
    ∃ stem, segments (names.foldl join directory) = stem ++ names ∧
      (segments directory = stem ∨ segments directory = stem ++ [[]]) := by
  induction names generalizing directory with
  | nil => exact ⟨segments directory, (List.append_nil _).symm, .inl rfl⟩
  | cons name rest ih =>
    obtain ⟨hname, hrest⟩ := List.forall_mem_cons.mp hnames
    obtain ⟨stem, hjoin, hstem⟩ := segments_join hdirectory hname
    have hne := join_ne_nil hdirectory (isAbsolute_eq_false hname)
    obtain ⟨stem', hfold, hstem'⟩ := ih hne hrest
    refine ⟨stem, ?_, hstem⟩
    rcases hstem' with hstem' | hstem'
    · rw [List.foldl_cons, hfold, ← hstem', hjoin, List.append_assoc]
      rfl
    · -- a name is not the empty segment that would be left out
      obtain ⟨-, hlast⟩ := List.append_inj' (hjoin.symm.trans hstem') rfl
      exact absurd (List.cons.inj hlast).1 hname.ne_nil

/-- The last of some names is the name of the file that a path joined of them is about. -/
theorem fileName?_foldl_join (hdirectory : directory ≠ []) (hnames : ∀ name ∈ names, IsName name)
    (hne : names ≠ []) : fileName? (names.foldl join directory) = names.getLast? := by
  rw [fileName?, components_foldl_join hdirectory hnames, List.getLast?_append,
    List.getLast?_map, List.getLast?_eq_some_getLast hne]
  rfl

end FilePath

/-! ## Where paths lead -/

/-- What stands between two slashes does not count, or is `..`, or is a name. -/
theorem Component.ofSegment?_cases (segment : Text) :
    ofSegment? segment = none ∨ ofSegment? segment = some .parent ∨
      ofSegment? segment = some (.name segment) := by
  unfold ofSegment?
  split <;> simp

/-- Where a component leads from a location, whatever is there. `FileSystem.step` also asks whether
there is anything. -/
def Location.advance (l : Location) : Component → Location
  | .root => []
  | .current => l
  | .parent => l.dropLast
  | .name name => l ++ [name]

/-- The `Location` that a path means by its text alone, seen from a directory. It does not look at
the file system, so it can be computed for paths that lead nowhere. -/
def FilePath.location (directory : Location) (path : FilePath) : Location :=
  (components path).foldl Location.advance directory

namespace FileSystem

variable {fs : FileSystem} {l l' : Location} {directory path : FilePath} {name : Text}
  {names : Location}

theorem walkAlong_append_eq_ok_iff {s t : List Text} :
    fs.walkAlong l (s ++ t) = .ok l' ↔
      ∃ k, fs.walkAlong l s = .ok k ∧ fs.walkAlong k t = .ok l' := by
  induction s generalizing l with
  | nil =>
    rw [List.nil_append, walkAlong]
    constructor
    · exact fun h => ⟨l, rfl, h⟩
    · rintro ⟨k, hk, h⟩
      rwa [Except.ok.inj hk]
  | cons segment rest ih =>
    rw [List.cons_append, walkAlong, walkAlong]
    cases fs.step l segment with
    | error fault =>
      constructor
      · intro h
        cases h
      · rintro ⟨k, hk, -⟩
        cases hk
    | ok k => exact ih

/-- A step leads where the segment says (`Location.advance`), if it leads anywhere. -/
theorem eq_advance_of_step {segment : Text} (h : fs.step l segment = .ok l') :
    l' = (Component.ofSegment? segment).elim l l.advance := by
  unfold step at h
  split at h
  · cases h
  · rcases Component.ofSegment?_cases segment with hsegment | hsegment | hsegment
    · rw [hsegment] at h ⊢
      exact (Except.ok.inj h).symm
    · rw [hsegment] at h ⊢
      exact (Except.ok.inj h).symm
    · rw [hsegment] at h ⊢
      dsimp only at h
      split at h
      · exact (Except.ok.inj h).symm
      · cases h

/-- Steps lead where the segments say, by induction on the segments. -/
theorem eq_foldl_advance_of_walkAlong {segments : List Text}
    (h : fs.walkAlong l segments = .ok l') :
    l' = (segments.filterMap Component.ofSegment?).foldl Location.advance l := by
  induction segments generalizing l with
  | nil => exact (Except.ok.inj h).symm
  | cons segment rest ih =>
    rw [walkAlong] at h
    cases hstep : fs.step l segment with
    | error fault =>
      rw [hstep] at h
      cases h
    | ok k =>
      rw [hstep] at h
      rw [ih h, eq_advance_of_step hstep, List.filterMap_cons]
      cases Component.ofSegment? segment <;> rfl

/-- **A path leads where its components say**, if it leads anywhere: `resolve` and
`FilePath.location` agree. -/
theorem eq_location_of_resolve (h : fs.resolve path = .ok l) :
    l = FilePath.location fs.current path := by
  unfold resolve at h
  split at h
  · cases h
  · rw [eq_foldl_advance_of_walkAlong h, FilePath.location, FilePath.components,
      List.foldl_append]
    congr 1
    -- the root is where absolute paths start, and a `.` in front of other paths stays
    by_cases habsolute : FilePath.isAbsolute path
    · rw [if_pos habsolute, FilePath.isAbsolute_iff.mp habsolute]
      rfl
    · rw [if_neg habsolute]
      rw [FilePath.isAbsolute_iff] at habsolute
      unfold FilePath.opening? at habsolute ⊢
      split at habsolute <;> simp_all [Location.advance]

/-- The files that are there are listed. -/
theorem exists_mem_files (h : fs.isFileAt l) : ∃ f ∈ fs.files, f.1 = l := by
  unfold isFileAt contentAt? at h
  split at h
  · cases h
  · obtain ⟨f, hf, hl⟩ := List.lookup_isSome_iff.mp h
    exact ⟨f, hf, (eq_of_beq hl).symm⟩

/-- Whatever is above a file is a directory, even if `directories` does not list it. -/
theorem isDirectory_of_isFileAt (h : fs.isFileAt (l ++ l')) (hne : l' ≠ []) :
    fs.isDirectory l := by
  obtain ⟨f, hf, hl⟩ := exists_mem_files h
  have habove : isAbove l f.1 := by
    rw [hl]
    simp [isAbove, List.length_pos_iff.mpr hne]
  unfold isDirectory
  rw [Bool.or_eq_true]
  exact .inr (List.any_eq_true.mpr ⟨f, hf, habove⟩)

/-- A name joined to the path of a directory leads to what has this name there. -/
theorem resolve_join (hl : fs.resolve directory = .ok l) (hname : IsName name)
    (hdirectory : fs.isDirectory l) (hentry : fs.isEntry (l ++ [name])) :
    fs.resolve (FilePath.join directory name) = .ok (l ++ [name]) := by
  have hne : directory ≠ [] := by
    rintro rfl
    cases hl
  have habsolute : FilePath.isAbsolute (FilePath.join directory name) =
      FilePath.isAbsolute directory := by
    rw [Bool.eq_iff_iff, FilePath.isAbsolute_iff, FilePath.isAbsolute_iff,
      FilePath.opening?_join hne (FilePath.isAbsolute_eq_false hname)]
  obtain ⟨stem, hjoin, hstem⟩ := FilePath.segments_join hne hname
  unfold resolve at hl ⊢
  rw [if_neg hne] at hl
  rw [if_neg (FilePath.join_ne_nil hne (FilePath.isAbsolute_eq_false hname)), habsolute, hjoin]
  refine walkAlong_append_eq_ok_iff.mpr ⟨l, ?_, ?_⟩
  · rcases hstem with hstem | hstem
    · rwa [hstem] at hl
    · -- the empty segment behind the last slash stays where it is
      rw [hstem] at hl
      obtain ⟨k, hk, hlast⟩ := walkAlong_append_eq_ok_iff.mp hl
      rwa [eq_foldl_advance_of_walkAlong hlast]
  · simp [walkAlong, step, hdirectory, hname.ofSegment?, hentry]

/-- **Joined names lead where they say**, if there is a file. The induction goes by the names, with
`resolve_join` as its step, each of which but the last is that of a directory. -/
theorem resolve_foldl_join (hl : fs.resolve directory = .ok l)
    (hnames : ∀ name ∈ names, IsName name) (hfile : fs.isFileAt (l ++ names)) :
    fs.resolve (names.foldl FilePath.join directory) = .ok (l ++ names) := by
  induction names generalizing directory l with
  | nil => rwa [List.append_nil]
  | cons name rest ih =>
    obtain ⟨hname, hrest⟩ := List.forall_mem_cons.mp hnames
    have hdirectory := isDirectory_of_isFileAt hfile (List.cons_ne_nil name rest)
    rw [List.append_cons] at hfile
    have hentry : fs.isEntry (l ++ [name]) := by
      unfold isEntry
      rw [Bool.or_eq_true]
      by_cases hlast : rest = []
      · rw [hlast, List.append_nil] at hfile
        exact .inr hfile
      · exact .inl (isDirectory_of_isFileAt hfile hlast)
    rw [List.append_cons]
    exact ih (resolve_join hl hname hdirectory hentry) hrest hfile

end FileSystem

end DotJs
