import DotJs.Batch
import DotJs.Json.Printer

/-!
# Reports

What a run prints about its summary, and what is printed about a single specifier. Both
come in two formats: lines for people, and a JSON document for programs. Paths are
printed as seen from the root of the project.
-/

namespace DotJs

/-- The two formats of reports, one for people and one for programs. They are given the same
`Summary`, and differ in what they leave out of it. -/
inductive ReportFormat where
  /-- a line for each edit or error -/
  | list
  /-- a JSON document -/
  | json
  deriving DecidableEq, Repr

namespace ReportFormat

/-- The format of a name, in small or capital letters. Only letters of ASCII have a letter of one of
the names as their small form, so that `Char.toLower` is enough. -/
def ofName? (name : Text) : Option ReportFormat :=
  let small := name.map Char.toLower
  if small = "list".toList then some .list
  else if small = "json".toList then some .json
  else none

/-- What is said about a name that no `ReportFormat` has: the name as it was given. -/
def unknownMessage (name : Text) : Text := "Unknown format: ".toList ++ name

end ReportFormat

/-- The counts that a report ends with. Status lines and exit codes (`exitCode`) are told by these
alone, so that two runs with the same counts look alike there. -/
structure Stats where
  /-- the number of files that a run was about -/
  scannedFiles : Nat
  /-- the number of rewritten files -/
  changedFiles : Nat
  /-- the number of files that could not be rewritten -/
  failedFiles : Nat
  /-- the number of rewritten specifiers -/
  rewrittenSpecifiers : Nat
  deriving DecidableEq, Repr

namespace Stats

/-- The counts as a JSON value: the member `stats` of a report. -/
def toJson (s : Stats) : Json :=
  .object
    [("scanned_files".toList, Json.ofNat s.scannedFiles),
     ("changed_files".toList, Json.ofNat s.changedFiles),
     ("failed_files".toList, Json.ofNat s.failedFiles),
     ("rewritten_specifiers".toList, Json.ofNat s.rewrittenSpecifiers)]

end Stats

/-- The path of a file as it is printed: as seen from the root (`FilePath.relativeTo?`), or as it is
when it does not lie below the root. -/
def displayPath (root path : FilePath) : Text := (FilePath.relativeTo? root path).getD path

namespace Edit

/-- An edit as a JSON value. All fields of an `Edit` are in it, so that a program can carry the edit
out by itself. -/
def toJson (e : Edit) : Json :=
  .object
    [("kind".toList, .string e.kind.name),
     ("verdict".toList, .string e.verdict.name),
     ("quote".toList, .string e.quote.name),
     ("start".toList, Json.ofNat e.span.start),
     ("end".toList, Json.ofNat e.span.stop),
     ("line".toList, Json.ofNat e.line),
     ("column".toList, Json.ofNat e.column),
     ("original".toList, .string e.original),
     ("replacement".toList, .string e.replacement)]

/-- The line about an edit in a file: where it is, in the form that editors can jump to, and both
texts of the literal. -/
def listLine (path : Text) (e : Edit) : Text :=
  path ++ ':' :: Text.ofNat e.line ++ ':' :: Text.ofNat e.column ++ ' ' :: e.original
    ++ " -> ".toList ++ e.replacement

end Edit

namespace FileOutcome

/-- An outcome as a JSON value. The member `error` is there only for a file that could not be
rewritten. -/
def toJson (root : FilePath) (o : FileOutcome) : Json :=
  .object
    ([("path".toList, .string (displayPath root o.path)),
      ("edits".toList, .array (o.edits.map Edit.toJson))]
      ++ (o.error.map fun e => ("error".toList, Json.string e)).toList)

/-- The lines about a file: one for each edit (`listLine`), or one for the error. -/
def lines (root : FilePath) (o : FileOutcome) : List Text :=
  let path := displayPath root o.path
  match o.error with
  | some error => [path ++ ": error: ".toList ++ error]
  | none => o.edits.map (Edit.listLine path)

end FileOutcome

namespace Summary

/-- The counts of a run: what is left of a `Summary` for status lines and exit codes. -/
def stats (s : Summary) : Stats :=
  ⟨s.scanned, s.changedFiles.length, s.failedFiles.length, s.totalEdits⟩

/-- The report in `lines`. Counts are not in it: status lines give them, on the other output. -/
def listText (root : FilePath) (s : Summary) : Text :=
  Text.join ['\n'] (s.files.flatMap (FileOutcome.lines root))

/-- The report as a `Json` value: the listed files, in the order of the summary, and the counts. -/
def toJson (root : FilePath) (s : Summary) : Json :=
  .object
    [("files".toList, .array (s.files.map (FileOutcome.toJson root))),
     ("stats".toList, s.stats.toJson)]

/-- The report as a JSON document (`Json.text`), which can be read back without loss. -/
def jsonText (root : FilePath) (s : Summary) : Text := (s.toJson root).text

/-- The report in a given format: `listText` or `jsonText`. -/
def text (format : ReportFormat) (root : FilePath) (s : Summary) : Text :=
  match format with
  | .list => s.listText root
  | .json => s.jsonText root

end Summary

/-! ## Explanations -/

/-- How a single specifier would be treated. It is about the text of a specifier only: whether the
node around it is a dynamic import, or lies inside a rewritten one, is not asked. -/
structure Explanation where
  /-- the specifier -/
  specifier : Text
  /-- what is decided about it -/
  verdict : Verdict
  /-- what it would become, if anything else -/
  rewritten : Option Text
  deriving DecidableEq, Repr

namespace Explanation

/-- The explanation of a specifier under given rules, by the same `Rules.classifyText` that a run
goes by. -/
def of (rules : Rules) (specifier : Text) : Explanation :=
  let verdict := rules.classifyText specifier
  ⟨specifier, verdict, if verdict.rewrites then some (specifier ++ dotJs) else none⟩

/-- An explanation as a JSON value. The member `rewritten` is there only for a specifier that would
be. -/
def toJson (e : Explanation) : Json :=
  .object
    ([("specifier".toList, Json.string e.specifier),
      ("verdict".toList, .string e.verdict.name),
      ("reason".toList, .string e.verdict.reason)]
      ++ (e.rewritten.map fun r => ("rewritten".toList, Json.string r)).toList)

/-- An explanation in a line, with the reason in brackets (`Verdict.reason`). -/
def line (e : Explanation) : Text :=
  match e.rewritten with
  | some rewritten =>
    '\'' :: e.specifier ++ "' -> '".toList ++ rewritten ++ "' (".toList ++ e.verdict.reason ++ [')']
  | none => '\'' :: e.specifier ++ "' unchanged (".toList ++ e.verdict.reason ++ [')']

/-- An explanation in a given format: the same three facts in words or as members. -/
def text (format : ReportFormat) (e : Explanation) : Text :=
  match format with
  | .list => e.line
  | .json => e.toJson.text

end Explanation

end DotJs
