import DotJs.Proofs.JsonReading
import DotJs.Report

/-!
# Decoding reports

A report in JSON loses nothing of what it is about. `Report.ofText?` decodes one, as a program that
uses it would: it reads the document and looks for the members by their keys. Kinds, verdicts and
quotes are found by their names (`ModuleKind.ofName?_name` and its like), and whatever is printed
for an edit, a file or the counts is decoded as itself.

`Summary.jsonText_lossless` puts this together with the grammar and the reader.
-/

namespace DotJs

/-! ## Parts of a value -/

namespace Json

/-- The value of a member of an `object`, by its key and not by its place. -/
def member? (key : Text) : Json → Option Json
  | .object ms => ms.lookup key
  | _ => none

/-- The text of a `string`, if a value is one. -/
def string? : Json → Option Text
  | .string t => some t
  | _ => none

/-- The value of a whole number (`natural`), if a value is one. -/
def natural? : Json → Option Nat
  | .number (.natural n) => some n
  | _ => none

/-- The elements of a list (`array`), if a value is one. -/
def elements? : Json → Option (List Json)
  | .array js => some js
  | _ => none

/-- A text among the members of an object, found by `member?`. -/
def textOf? (key : Text) (j : Json) : Option Text := (j.member? key).bind string?

/-- A whole number among the members of an object, found by `member?`. -/
def naturalOf? (key : Text) (j : Json) : Option Nat := (j.member? key).bind natural?

/-- A list among the members of an object, found by `member?`. -/
def elementsOf? (key : Text) (j : Json) : Option (List Json) := (j.member? key).bind elements?

end Json

/-! ## Names -/

/-- The kind with a name, which is `ModuleKind.name` turned round. -/
def ModuleKind.ofName? (name : Text) : Option ModuleKind :=
  [importDeclaration, exportNamed, exportAll, dynamicImport].find? (·.name = name)

/-- The verdict with a name, which is `Verdict.name` turned round. -/
def Verdict.ofName? (name : Text) : Option Verdict :=
  [notDeclaration, noSpecifier, notLiteral, hasExtension, notRelative, forceIncluded,
    relative].find? (·.name = name)

/-- The quotes with a name, which is `QuoteStyle.name` turned round. -/
def QuoteStyle.ofName? (name : Text) : Option QuoteStyle := [single, double].find? (·.name = name)

theorem ModuleKind.ofName?_name (kind : ModuleKind) : ofName? kind.name = some kind := by
  cases kind <;> decide +kernel

theorem Verdict.ofName?_name (verdict : Verdict) : ofName? verdict.name = some verdict := by
  cases verdict <;> decide +kernel

theorem QuoteStyle.ofName?_name (quote : QuoteStyle) : ofName? quote.name = some quote := by
  cases quote <;> decide +kernel

/-! ## Decoding -/

/-- What a report says about a file. It is no `FileOutcome`, because the path is only a printed
one. -/
structure FileReport where
  /-- the path as it is printed -/
  path : Text
  /-- what was rewritten -/
  edits : List Edit
  /-- why nothing could be -/
  error : Option Text
  deriving DecidableEq, Repr

/-- What a report says, as it can be found out from its text. -/
structure Report where
  /-- what it says about files -/
  files : List FileReport
  /-- the counts -/
  stats : Stats
  deriving DecidableEq, Repr

/-- Decodes an edit from the members that `Edit.toJson` writes, each found by its key. -/
def Edit.ofJson? (j : Json) : Option Edit := do
  let kind ← ModuleKind.ofName? (← j.textOf? "kind".toList)
  let verdict ← Verdict.ofName? (← j.textOf? "verdict".toList)
  let quote ← QuoteStyle.ofName? (← j.textOf? "quote".toList)
  let start ← j.naturalOf? "start".toList
  let stop ← j.naturalOf? "end".toList
  let line ← j.naturalOf? "line".toList
  let column ← j.naturalOf? "column".toList
  let original ← j.textOf? "original".toList
  let replacement ← j.textOf? "replacement".toList
  return ⟨kind, verdict, quote, ⟨start, stop⟩, line, column, original, replacement⟩

/-- Decodes what is said about a file (`FileOutcome.toJson`). There is an error if there is a member
for one. -/
def FileReport.ofJson? (j : Json) : Option FileReport := do
  let path ← j.textOf? "path".toList
  let edits ← (← j.elementsOf? "edits".toList).mapM Edit.ofJson?
  match j.member? "error".toList with
  | none => return ⟨path, edits, none⟩
  | some error => return ⟨path, edits, some (← error.string?)⟩

/-- Decodes the counts from the members that `Stats.toJson` writes. -/
def Stats.ofJson? (j : Json) : Option Stats := do
  let scanned ← j.naturalOf? "scanned_files".toList
  let changed ← j.naturalOf? "changed_files".toList
  let failed ← j.naturalOf? "failed_files".toList
  let rewritten ← j.naturalOf? "rewritten_specifiers".toList
  return ⟨scanned, changed, failed, rewritten⟩

namespace Report

/-- Decodes a report (`Summary.toJson`): the files in their order, and the counts. -/
def ofJson? (j : Json) : Option Report := do
  let files ← (← j.elementsOf? "files".toList).mapM FileReport.ofJson?
  let stats ← Stats.ofJson? (← j.member? "stats".toList)
  return ⟨files, stats⟩

/-- Decodes the text of a report, by way of the reader of JSON (`Json.read`). -/
def ofText? (text : Text) : Option Report := (Json.read text).toOption.bind ofJson?

end Report

/-! ## What is printed is decoded -/

theorem mapM_map_of_forall {α β γ : Type} {f : α → β} {g : β → Option γ} {k : α → γ}
    (h : ∀ a, g (f a) = some (k a)) (as : List α) : (as.map f).mapM g = some (as.map k) := by
  induction as with
  | nil => rfl
  | cons a as ih => simp [h, ih]

/-- An edit is decoded (`ofJson?`) as itself, with all nine fields. -/
theorem Edit.ofJson?_toJson (e : Edit) : ofJson? e.toJson = some e := by
  -- the members are found by evaluation, and only the names are left
  change ((ModuleKind.ofName? e.kind.name).bind fun kind =>
    (Verdict.ofName? e.verdict.name).bind fun verdict =>
      (QuoteStyle.ofName? e.quote.name).bind fun quote =>
        some (Edit.mk kind verdict quote e.span e.line e.column e.original e.replacement)) = some e
  rw [ModuleKind.ofName?_name, Verdict.ofName?_name, QuoteStyle.ofName?_name]
  rfl

/-- The counts are decoded as themselves. -/
theorem Stats.ofJson?_toJson (s : Stats) : ofJson? s.toJson = some s := rfl

/-- What is printed for a file is decoded as its printed path, its edits and its error. -/
theorem FileReport.ofJson?_toJson (root : FilePath) (o : FileOutcome) :
    ofJson? (o.toJson root) = some ⟨displayPath root o.path, o.edits, o.error⟩ := by
  have hedits : (o.edits.map Edit.toJson).mapM Edit.ofJson? = some o.edits := by
    rw [mapM_map_of_forall (k := id) Edit.ofJson?_toJson, List.map_id]
  obtain ⟨path, edits, error⟩ := o
  cases error with
  | none =>
    change ((edits.map Edit.toJson).mapM Edit.ofJson?).bind (fun edits =>
      some (FileReport.mk (displayPath root path) edits none)) = _
    rw [hedits]
    rfl
  | some error =>
    change ((edits.map Edit.toJson).mapM Edit.ofJson?).bind (fun edits =>
      some (FileReport.mk (displayPath root path) edits (some error))) = _
    rw [hedits]
    rfl

/-- What is printed for a summary (`Summary.toJson`) is decoded as what it says about each file, in
order, and its counts. -/
theorem Report.ofJson?_toJson (root : FilePath) (s : Summary) :
    ofJson? (s.toJson root) =
      some ⟨s.files.map fun o => ⟨displayPath root o.path, o.edits, o.error⟩, s.stats⟩ := by
  change ((s.files.map (FileOutcome.toJson root)).mapM FileReport.ofJson?).bind (fun files =>
    some (Report.mk files s.stats)) = _
  rw [mapM_map_of_forall (FileReport.ofJson?_toJson root)]
  rfl

/-! ## Documents -/

/-- Whether the numbers of an edit have 64 bits, as those that are computed have. Numbers of this
library have no bound, while a reader of JSON keeps larger ones as fractions. -/
structure Edit.Has64Bits (e : Edit) : Prop where
  /-- the start of its place -/
  start : e.span.start < 0x10000000000000000
  /-- the end of its place -/
  stop : e.span.stop < 0x10000000000000000
  /-- the line -/
  line : e.line < 0x10000000000000000
  /-- the column -/
  column : e.column < 0x10000000000000000

/-- Whether the numbers of a summary have 64 bits, those of its edits (`Edit.Has64Bits`) included,
as those that are computed have. -/
structure Summary.Has64Bits (s : Summary) : Prop where
  /-- the number of files that the run was about -/
  scanned : s.scanned < 0x10000000000000000
  /-- the number of files that are listed -/
  files : s.files.length < 0x10000000000000000
  /-- the number of edits in all of them -/
  totalEdits : s.totalEdits < 0x10000000000000000
  /-- the numbers of each edit -/
  edits : ∀ o ∈ s.files, ∀ e ∈ o.edits, e.Has64Bits

open Json (AllNumbers allNumbersOf_iff depthOf_le_iff Number)

variable {p : Number → Prop} {s : Summary} {root : FilePath}

/-- The numbers in an edit (`AllNumbers`) are those of its place. -/
theorem Edit.allNumbers_toJson (e : Edit)
    (h : ∀ n ∈ [e.span.start, e.span.stop, e.line, e.column], p (.natural n)) :
    e.toJson.AllNumbers p := by
  simp only [List.forall_mem_cons] at h
  obtain ⟨hstart, hstop, hline, hcolumn, -⟩ := h
  exact ⟨trivial, trivial, trivial, hstart, hstop, hline, hcolumn, trivial, trivial, trivial⟩

/-- The numbers in what is printed for a file are those of its edits. -/
theorem FileOutcome.allNumbers_toJson (o : FileOutcome)
    (h : ∀ e ∈ o.edits, e.toJson.AllNumbers p) : (o.toJson root).AllNumbers p := by
  have hedits : Json.AllNumbersOf p (o.edits.map Edit.toJson) :=
    allNumbersOf_iff.mpr fun j hj => by
      obtain ⟨e, he, rfl⟩ := List.mem_map.mp hj
      exact h e he
  obtain ⟨path, edits, error⟩ := o
  cases error with
  | none => exact ⟨trivial, hedits, trivial⟩
  | some error => exact ⟨trivial, hedits, trivial, trivial⟩

/-- The numbers in a report are those of the edits and the counts. -/
theorem Summary.allNumbers_toJson (s : Summary)
    (hfiles : ∀ o ∈ s.files, ∀ e ∈ o.edits, e.toJson.AllNumbers p)
    (hstats : s.stats.toJson.AllNumbers p) : (s.toJson root).AllNumbers p := by
  refine ⟨allNumbersOf_iff.mpr fun j hj => ?_, hstats, trivial⟩
  obtain ⟨o, ho, rfl⟩ := List.mem_map.mp hj
  exact o.allNumbers_toJson (hfiles o ho)

/-- What is printed for a file has three levels: itself, its edits and each of them. -/
theorem FileOutcome.depth_toJson_le (root : FilePath) (o : FileOutcome) :
    (o.toJson root).depth ≤ 3 := by
  obtain ⟨path, edits, error⟩ := o
  have hedits : Json.depthOf (edits.map Edit.toJson) ≤ 1 :=
    depthOf_le_iff.mpr fun j hj => by
      obtain ⟨e, -, rfl⟩ := List.mem_map.mp hj
      exact Nat.le_refl 1
  cases error with
  | none =>
    change max 0 (max (Json.depthOf (edits.map Edit.toJson) + 1) 0) + 1 ≤ 3
    omega
  | some error =>
    change max 0 (max (Json.depthOf (edits.map Edit.toJson) + 1) (max 0 0)) + 1 ≤ 3
    omega

/-- A report has five levels at most, far below the `depthLimit` of a reader. -/
theorem Summary.depth_toJson_le (root : FilePath) (s : Summary) : (s.toJson root).depth ≤ 5 := by
  have hfiles : Json.depthOf (s.files.map (FileOutcome.toJson root)) ≤ 3 :=
    depthOf_le_iff.mpr fun j hj => by
      obtain ⟨o, -, rfl⟩ := List.mem_map.mp hj
      exact o.depth_toJson_le root
  change max (Json.depthOf (s.files.map (FileOutcome.toJson root)) + 1) (max 1 0) + 1 ≤ 5
  omega

/-- The counts of a summary are numbers of 64 bits with those that they count. -/
theorem Summary.Has64Bits.stats (h : s.Has64Bits) :
    s.stats.toJson.AllNumbers Number.Has64Bits := by
  have hchanged : s.changedFiles.length ≤ s.files.length := List.length_filter_le _ _
  have hfailed : s.failedFiles.length ≤ s.files.length := List.length_filter_le _ _
  exact ⟨h.scanned, Nat.lt_of_le_of_lt hchanged h.files, Nat.lt_of_le_of_lt hfailed h.files,
    h.totalEdits, trivial⟩

/-- **A report in JSON loses nothing.** For every summary, whatever texts it holds, and every root,
the report is one JSON document by the grammar (`Json.IsDocument`), and it is read as the value that
was printed. This decodes (`Report.ofText?`) to the printed path of each file in order, all of its
edits, and its error if there is one, and to the counts: the files that the run was about, those
with edits, those with an error, and all edits. Numbers have 64 bits here (`Has64Bits`), as those of
lines, columns, bytes and counts do. -/
theorem Summary.jsonText_lossless (s : Summary) (h : s.Has64Bits) (root : FilePath) :
    Json.IsDocument (s.toJson root) (s.jsonText root) ∧
    Json.read (s.jsonText root) = .ok (s.toJson root) ∧
    Report.ofText? (s.jsonText root) =
      some
        { files := s.files.map fun o => ⟨displayPath root o.path, o.edits, o.error⟩
          stats :=
            { scannedFiles := s.scanned
              changedFiles := (s.files.filter fun o => !o.edits.isEmpty).length
              failedFiles := (s.files.filter fun o => o.error.isSome).length
              rewrittenSpecifiers := (s.files.flatMap fun o => o.edits).length } } := by
  have hdocument : Json.IsDocument (s.toJson root) (s.jsonText root) := by
    refine Json.isDocument_text (s.allNumbers_toJson (fun o _ e _ => ?_) ?_)
    · exact e.allNumbers_toJson fun _ _ => trivial
    · exact ⟨trivial, trivial, trivial, trivial, trivial⟩
  have hread : Json.read (s.jsonText root) = .ok (s.toJson root) := by
    refine Json.read_of_isDocument hdocument (s.allNumbers_toJson (fun o ho e he => ?_) h.stats)
      (Nat.le_trans (s.depth_toJson_le root) (by decide))
    obtain ⟨hstart, hstop, hline, hcolumn⟩ := h.edits o ho e he
    exact e.allNumbers_toJson (by simpa [Number.Has64Bits] using ⟨hstart, hstop, hline, hcolumn⟩)
  refine ⟨hdocument, hread, ?_⟩
  rw [Report.ofText?, hread]
  exact Report.ofJson?_toJson root s

/-- Two files, one with a quote, a backslash and a line feed in its name, and one with a control
character in its error. -/
theorem Summary.jsonText_lossless_escaped :
    let e : Edit := ⟨.exportAll, .forceIncluded, .double, ⟨14, 24⟩, 1, 15, "\"é\\\"😀\"".toList,
      "\"é\\\"😀.js\"".toList⟩
    let error := "Failed to parse file: \x07".toList
    let s : Summary := ⟨7, [⟨"/p/a\"\\\n.ts".toList, [e], none⟩, ⟨"/c.ts".toList, [], some error⟩]⟩
    s.Has64Bits ∧
      Report.ofText? (s.jsonText "/p".toList) =
        some ⟨[⟨"a\"\\\n.ts".toList, [e], none⟩, ⟨"/c.ts".toList, [], some error⟩],
          ⟨7, 1, 1, 1⟩⟩ := by
  intro e error s
  have he : e.Has64Bits := ⟨by decide, by decide, by decide, by decide⟩
  have h : s.Has64Bits := by
    refine ⟨by decide, by decide, by decide, fun o ho e' he' => ?_⟩
    simp only [s, List.mem_cons, List.not_mem_nil, or_false] at ho
    rcases ho with rfl | rfl
    · rw [List.mem_singleton.mp he']
      exact he
    · cases he'
  obtain ⟨-, -, hdecoded⟩ := s.jsonText_lossless h "/p".toList
  exact ⟨h, hdecoded.trans (by decide +kernel)⟩

end DotJs
