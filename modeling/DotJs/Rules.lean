import DotJs.Extension
import DotJs.Program
import DotJs.Regex.Parse

/-!
# Rules

Which specifiers are given an extension. A relative specifier is, when it has none;
no rule changes that. Any other specifier is only when it is forced: some pattern
asks for it and none excludes it.

* `Rules.ofPatterns` compiles the patterns, or names the first that is none;
* `Rules.classifyText` judges the text of a specifier;
* `Rules.classify` judges a module node.
-/

namespace DotJs

/-- The rules of one run. The patterns are compiled, so that no rule can fail while a program is
rewritten; texts that are no patterns are refused before, by `Rules.ofPatterns`. -/
structure Rules where
  /-- patterns of the specifiers that are forced -/
  forced : List Regex
  /-- patterns of the specifiers that are never forced -/
  excluded : List Regex
  /-- whether dynamic imports are rewritten -/
  dynamicImports : Bool
  deriving DecidableEq, Repr

/-- Compiles patterns (`Regex.parse?`), in their order. The error is the first text that is no
pattern, for the message to name. -/
def compilePatterns : List Text → Except Text (List Regex)
  | [] => .ok []
  | p :: rest =>
    match Regex.parse? p with
    | none => .error p
    | some r =>
      match compilePatterns rest with
      | .error e => .error e
      | .ok rs => .ok (r :: rs)

namespace Rules

/-- No force rules, and no dynamic imports: the rules of a project without settings. -/
def none : Rules := ⟨[], [], false⟩

/-- The rules with given patterns. Of two texts that are no patterns, one among the `forced` comes
first, because these are compiled first. -/
def ofPatterns (forced excluded : List Text) (dynamicImports : Bool) : Except Text Rules :=
  match compilePatterns forced with
  | .error e => .error e
  | .ok forced =>
    match compilePatterns excluded with
    | .error e => .error e
    | .ok excluded => .ok ⟨forced, excluded, dynamicImports⟩

/-- Whether a specifier is a relative path, by how it starts. `.` and `..` alone are none, and
neither is an absolute path. -/
def isRelative : Text → Bool
  | '.' :: '/' :: _ => true
  | '.' :: '.' :: '/' :: _ => true
  | _ => false

/-- Whether the force rules ask for a specifier, when `finds` says which patterns are found in
which texts. An excluded pattern that is found outweighs all `forced` ones. The search is a
parameter because what rules do to a verdict does not depend on it. -/
def forcesBy (finds : Regex → Text → Bool) (rules : Rules) (specifier : Text) : Bool :=
  rules.forced.any (fun r => finds r specifier)
    && !rules.excluded.any (fun r => finds r specifier)

/-- Whether the force rules ask for a specifier: `forcesBy` with the search of `Regex.isFoundIn`,
which may succeed anywhere in the text. -/
def forces (rules : Rules) (specifier : Text) : Bool :=
  rules.forcesBy Regex.isFoundIn specifier

/-- Judges the text of a specifier, when `finds` says which patterns are found in which texts. A
relative specifier never comes to `forcesBy`, so that force rules have no say about it; any other
is asked about force rules before its extension, so that `my-pkg/data.json` can be forced. -/
def classifyTextBy (finds : Regex → Text → Bool) (rules : Rules) (specifier : Text) : Verdict :=
  if isRelative specifier then
    if extension specifier = [] then .relative else .hasExtension
  else if rules.forcesBy finds specifier then .forceIncluded
  else if extension specifier ≠ [] then .hasExtension
  else .notRelative

/-- Judges the text of a specifier: `classifyTextBy` with the search of `Regex.isFoundIn`. -/
def classifyText (rules : Rules) (specifier : Text) : Verdict :=
  rules.classifyTextBy Regex.isFoundIn specifier

theorem forces_eq_forcesBy (rules : Rules) : rules.forces = rules.forcesBy Regex.isFoundIn := rfl

theorem classifyText_eq_classifyTextBy (rules : Rules) :
    rules.classifyText = rules.classifyTextBy Regex.isFoundIn := rfl

/-- `classifyText` in terms of `forces`, as it is used where the search does not matter. -/
theorem classifyText_eq (rules : Rules) (specifier : Text) :
    rules.classifyText specifier =
      if isRelative specifier then
        if extension specifier = [] then .relative else .hasExtension
      else if rules.forces specifier then .forceIncluded
      else if extension specifier ≠ [] then .hasExtension
      else .notRelative := rfl

/-- Judges a specifier: the text of a literal by `classifyText`, and what is no literal by that
alone. -/
def classifySpecifier (rules : Rules) : Specifier → Verdict
  | .absent => .noSpecifier
  | .computed => .notLiteral
  | .literal l => rules.classifyText l.value

/-- Judges a module node. A dynamic import that is not asked for is left whatever its specifier
says; otherwise only the specifier counts (`classifyText`), and not the kind of the node. -/
def classify (rules : Rules) (n : Node) : Verdict :=
  if n.kind = .dynamicImport ∧ rules.dynamicImports = false then .notDeclaration
  else rules.classifySpecifier n.specifier

end Rules

end DotJs
