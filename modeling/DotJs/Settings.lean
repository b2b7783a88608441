import DotJs.Json.Fault
import DotJs.Json.Printer
import DotJs.Json.Reader
import DotJs.Rules

/-!
# Settings

The settings of a project: the force rules as patterns, whether dynamic imports are
rewritten, which files are looked at and which are passed over. A settings file is a
JSON object with five known keys, each with a default, or a list of their values in
order.

* `Settings.read` reads a settings file;
* `Settings.extend` adds what a command line asks for;
* `Settings.rules` compiles the patterns.
-/

namespace DotJs

/-- The settings of a project. Patterns are kept as the texts that they were given as, because
settings are printed and added to before they are used; `Settings.rules` compiles them. -/
structure Settings where
  /-- patterns of the specifiers that are forced -/
  forceInclude : List Text
  /-- patterns of the specifiers that are never forced -/
  forceExclude : List Text
  /-- whether dynamic imports are rewritten -/
  dynamicImports : Bool
  /-- the extensions of the files that are looked at, with their dots -/
  extensions : List Text
  /-- glob patterns of the files that are passed over -/
  ignorePatterns : List Text
  deriving DecidableEq, Repr

namespace Settings

/-- The extensions that are looked at by default. `.cts` and `.cjs` are not among them, though
`Language.ofPath` knows how to read such files. -/
def defaultExtensions : List Text :=
  [".ts", ".tsx", ".mts", ".js", ".jsx", ".mjs"].map String.toList

/-- The files that are passed over by default. A settings file with the key `ignorePatterns`
replaces them and does not add to them. -/
def defaultIgnorePatterns : List Text :=
  ["**/node_modules/**", "**/dist/**", "**/build/**", "**/.git/**"].map String.toList

/-- The settings of a project without a settings file, and of one whose settings file holds an empty
object (`Partial.complete`). -/
def default : Settings := ⟨[], [], false, defaultExtensions, defaultIgnorePatterns⟩

/-- Adds patterns, and asks for dynamic imports if told so. What a command line asks for can only be
added: it cannot take a pattern away, nor switch `dynamicImports` off. -/
def extend (s : Settings) (forceInclude forceExclude : List Text) (dynamicImports : Bool) :
    Settings :=
  { s with
    forceInclude := s.forceInclude ++ forceInclude
    forceExclude := s.forceExclude ++ forceExclude
    dynamicImports := s.dynamicImports || dynamicImports }

/-- The compiled `Rules`, or the first text that is no pattern. What files a project looks at has no
part in them. -/
def rules (s : Settings) : Except Text Rules :=
  Rules.ofPatterns s.forceInclude s.forceExclude s.dynamicImports

/-- The patterns that a `Json` value stands for: a single string, or the strings of a list. All else
is dropped, so that no value is of the wrong kind here, as it is for the other three fields. -/
def patternsOf : Json → List Text
  | .string p => [p]
  | .array js => js.filterMap fun j =>
    match j with
    | .string p => some p
    | _ => none
  | _ => []

/-! ## Reading -/

open Json (Reader)
open Json.Reader (fail next drop elements members listEnd objectEnd bound)

/-- Fails on a value of the wrong kind, naming it (`Found`); on no value at all, with the fault of
the text. A value without parts has to be read to be named, so that a text that is broken there is
told before the kind is. -/
def wrongType {α : Type} (expected : String) : Reader α := do
  let found : Json.Found ← match ← next with
    | some '[' => pure .array
    | some '{' => pure .object
    | _ => do
      match ← Json.Reader.scalar with
      | some .null => pure .null
      | some (.bool b) => pure (.bool b)
      | some (.number n) => pure (.number n)
      | some (.string t) => pure (.string t)
      | _ => pure .null
  fail (.wrongType found expected.toList)

/-- The value `true` or `false`, for `Settings.dynamicImports`. No other value stands for one of
them. -/
def readBool : Reader Bool := do
  match ← next with
  | some 't' | some 'f' =>
    match ← Json.Reader.scalar with
    | some (.bool b) => return b
    | _ => wrongType "a boolean"
  | _ => wrongType "a boolean"

/-- A string, as an element of `readStrings`; the escapes in it have to spell a text. -/
def readString : Reader Text := do
  if (← next) == some '"' then Json.Reader.quotedString else wrongType "a string"

/-- A list of strings, for `Settings.extensions` and `Settings.ignorePatterns`. One element that is
no string is enough to refuse the settings. -/
def readStrings : Reader (List Text) := do
  if (← next) == some '[' then
    drop
    let reversed ← elements (fun ts => do return (← readString) :: ts) (← bound) true []
    listEnd
    return reversed.reverse
  else
    wrongType "a sequence"

/-- Patterns, as any value that is not nested too deeply inside the settings. The whole value is
read before `patternsOf` chooses from it, so that what is dropped has to be JSON all the same. -/
def readPatterns : Reader (List Text) := do
  return patternsOf (← Json.Reader.value (Json.depthLimit - 1))

/-- The settings as far as they were read. A place that is `none` was not met yet: this tells a key
that stands twice, and where a default has to go in. -/
structure Partial where
  /-- see `Settings.forceInclude` -/
  forceInclude : Option (List Text)
  /-- see `Settings.forceExclude` -/
  forceExclude : Option (List Text)
  /-- see `Settings.dynamicImports` -/
  dynamicImports : Option Bool
  /-- see `Settings.extensions` -/
  extensions : Option (List Text)
  /-- see `Settings.ignorePatterns` -/
  ignorePatterns : Option (List Text)
  deriving DecidableEq, Repr

/-- Nothing read so far, as reading starts with it. -/
def Partial.nothing : Partial := ⟨none, none, none, none, none⟩

/-- The settings, with defaults for what is missing. Each field has its own, whatever was read for
the others. -/
def Partial.complete (p : Partial) : Settings :=
  { forceInclude := p.forceInclude.getD []
    forceExclude := p.forceExclude.getD []
    dynamicImports := p.dynamicImports.getD false
    extensions := p.extensions.getD defaultExtensions
    ignorePatterns := p.ignorePatterns.getD defaultIgnorePatterns }

/-- A known key. A settings file can only be read wrongly or twice at one of these five; all other
keys are skipped with their values. -/
inductive Field where
  /-- see `Settings.forceInclude` -/
  | forceInclude
  /-- see `Settings.forceExclude` -/
  | forceExclude
  /-- see `Settings.dynamicImports` -/
  | dynamicImports
  /-- see `Settings.extensions` -/
  | extensions
  /-- see `Settings.ignorePatterns` -/
  | ignorePatterns
  deriving DecidableEq, Repr

namespace Field

/-- The known keys in the order of a list of values (`readListed`). As keys of an object they can
come in any order. -/
def all : List Field := [forceInclude, forceExclude, dynamicImports, extensions, ignorePatterns]

/-- The text of a key. Keys are compared letter by letter, so that `forceinclude` is an unknown
one. -/
def key : Field → Text
  | forceInclude => "forceInclude".toList
  | forceExclude => "forceExclude".toList
  | dynamicImports => "dynamicImports".toList
  | extensions => "extensions".toList
  | ignorePatterns => "ignorePatterns".toList

/-- Whether a `Field` was read already, which makes a second member with its key a fault. -/
def isRead (p : Partial) : Field → Bool
  | forceInclude => p.forceInclude.isSome
  | forceExclude => p.forceExclude.isSome
  | dynamicImports => p.dynamicImports.isSome
  | extensions => p.extensions.isSome
  | ignorePatterns => p.ignorePatterns.isSome

/-- Reads the value of a field into its place. Patterns take any value and the other three only
values of their kind. -/
def read (p : Partial) : Field → Reader Partial
  | forceInclude => do return { p with forceInclude := some (← readPatterns) }
  | forceExclude => do return { p with forceExclude := some (← readPatterns) }
  | dynamicImports => do return { p with dynamicImports := some (← readBool) }
  | extensions => do return { p with extensions := some (← readStrings) }
  | ignorePatterns => do return { p with ignorePatterns := some (← readStrings) }

end Field

/-- Reads a member of the settings. A known key can stand once; the value of any other is skipped by
`Json.Reader.skipValue`, which lets pass whatever is well-formed. -/
def readMember (key : Text) (p : Partial) : Reader Partial := do
  match Field.all.find? fun f => f.key == key with
  | some f =>
    if f.isRead p then fail (.duplicateField key)
    Json.Reader.colon
    f.read p
  | none =>
    Json.Reader.colon
    Json.Reader.skipValue
    return p

/-- Reads the settings as a list of values, in the order of `Field.all`. Those at the end can be
missing. -/
def readListed : List Field → (first : Bool) → Partial → Reader Partial
  | [], _, p => return p
  | f :: fs, first, p => do
    match ← next with
    | none => fail .endInList
    | some ']' => return p
    | some c =>
      if first then
        readListed fs false (← f.read p)
      else if c = ',' then
        drop
        match ← next with
        | none => fail .endInValue
        | some ']' => fail .trailingComma
        | some _ => readListed fs false (← f.read p)
      else
        fail .noListEnd

/-- Reads settings: an object or a list. Nothing else is taken, not even `null`. -/
def reader : Reader Settings := do
  match ← next with
  | none => fail .endInValue
  | some '{' =>
    drop
    let p ← members readMember (← bound) true Partial.nothing
    objectEnd
    return p.complete
  | some '[' =>
    drop
    let p ← readListed Field.all true Partial.nothing
    listEnd
    return p.complete
  | some _ => wrongType "struct Config"

/-- The settings that a settings file holds. The text has to be one JSON value and nothing behind it
(`Json.Reader.document`). -/
def read (text : Text) : Except Json.Fault Settings := reader.document text

/-- The settings as a JSON value: an object with all five keys, each list as an array even if it has
one element. `Settings.read` takes its text back to the settings. -/
def toJson (s : Settings) : Json :=
  let texts (ts : List Text) : Json := .array (ts.map .string)
  .object
    [(Field.key .forceInclude, texts s.forceInclude),
     (Field.key .forceExclude, texts s.forceExclude),
     (Field.key .dynamicImports, .bool s.dynamicImports),
     (Field.key .extensions, texts s.extensions),
     (Field.key .ignorePatterns, texts s.ignorePatterns)]

end Settings

end DotJs
