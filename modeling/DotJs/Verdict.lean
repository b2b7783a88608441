import DotJs.Text

/-!
# Verdicts

A verdict says whether a module specifier is to be given an extension, and why.
The names and the reasons are those that reports and explanations print.
-/

namespace DotJs

/-- The four places of a program that can name another module. `Rules.classify` asks of them only
whether they are a `dynamicImport`; reports name all four. -/
inductive ModuleKind where
  /-- `import … from '…'` and `import '…'` -/
  | importDeclaration
  /-- `export … from '…'` and every other export of names -/
  | exportNamed
  /-- `export * from '…'` -/
  | exportAll
  /-- `import('…')` -/
  | dynamicImport
  deriving DecidableEq, Repr

/-- The name of a kind in reports: the value of the member `kind` of an edit. -/
def ModuleKind.name : ModuleKind → Text
  | .importDeclaration => "import".toList
  | .exportNamed => "exportNamed".toList
  | .exportAll => "exportAll".toList
  | .dynamicImport => "dynamicImport".toList

/-- What is decided about one specifier, with the reason. There is one verdict for each reason, so
that `rewrites`, `name` and `reason` can be read off it and an explanation has nothing to decide. -/
inductive Verdict where
  /-- a dynamic import while those are not asked for -/
  | notDeclaration
  /-- an export of local names -/
  | noSpecifier
  /-- an argument that has to be computed -/
  | notLiteral
  /-- a text that already has an extension -/
  | hasExtension
  /-- a package name or another text that is no relative path -/
  | notRelative
  /-- a text that the force rules ask for -/
  | forceIncluded
  /-- a relative path without extension -/
  | relative
  deriving DecidableEq, Repr

namespace Verdict

/-- Whether the specifier gets an extension: it does for the two verdicts `forceIncluded` and
`relative`, and for none of the reasons to leave it. -/
def rewrites : Verdict → Bool
  | .forceIncluded | .relative => true
  | _ => false

/-- The name of a verdict in reports, where programs read it. -/
def name : Verdict → Text
  | .notDeclaration => "notDeclaration".toList
  | .noSpecifier => "noSpecifier".toList
  | .notLiteral => "notLiteral".toList
  | .hasExtension => "hasExtension".toList
  | .notRelative => "notRelative".toList
  | .forceIncluded => "forceIncluded".toList
  | .relative => "relative".toList

/-- The reason in words, as `explain` prints it for people beside the `name`. -/
def reason : Verdict → Text
  | .notDeclaration => "not an import or export declaration".toList
  | .noSpecifier => "declaration has no module specifier".toList
  | .notLiteral => "module specifier is not a string literal".toList
  | .hasExtension => "specifier already has an extension".toList
  | .notRelative => "specifier is not a relative path".toList
  | .forceIncluded => "specifier matches forceInclude".toList
  | .relative => "relative specifier without extension".toList

end Verdict

end DotJs
