import DotJs.FilePath

/-!
# Arguments

What the arguments of a command line ask for. Arguments are read from left to right:
first options of the program, then the name of a command, then options and operands of
the command. Options have a long name or a short one; short ones can stand together
behind one dash, and `--` makes operands of all that follows.

An option that takes a value takes it from behind its name or from the next argument.
Only the options for patterns can be given twice.
-/

namespace DotJs.CommandLine

/-- An option, without its value. One type has the options of all scopes; `Scope.flags` says which
can stand where. -/
inductive Flag where
  /-- print the version -/
  | version
  /-- print a help text -/
  | help
  /-- show what is going on -/
  | verbose
  /-- show results only -/
  | quiet
  /-- the root of the project -/
  | root
  /-- write what is rewritten -/
  | write
  /-- fail when anything would be rewritten -/
  | check
  /-- the format of the report -/
  | format
  /-- a pattern of specifiers to force -/
  | forceInclude
  /-- a pattern of specifiers never to force -/
  | forceExclude
  /-- rewrite dynamic imports too -/
  | dynamicImports
  deriving DecidableEq, Repr

namespace Flag

/-- The long name of an option, which stands behind two dashes. It cannot be shortened. -/
def long : Flag → Text
  | version => "version".toList
  | help => "help".toList
  | verbose => "verbose".toList
  | quiet => "quiet".toList
  | root => "root".toList
  | write => "write".toList
  | check => "check".toList
  | format => "format".toList
  | forceInclude => "force-include".toList
  | forceExclude => "force-exclude".toList
  | dynamicImports => "dynamic-imports".toList

/-- The short name of an option, if it has one. `check` and the options for rules have none. -/
def short? : Flag → Option Char
  | version => some 'V'
  | help => some 'h'
  | verbose => some 'v'
  | quiet => some 'q'
  | root => some 'r'
  | write => some 'w'
  | format => some 'f'
  | check | forceInclude | forceExclude | dynamicImports => none

/-- Whether an option takes a value. One that does not may not be given any, not even by `=`. -/
def takesValue : Flag → Bool
  | root | format | forceInclude | forceExclude => true
  | _ => false

/-- Whether an option can be given more than once. Only patterns add up; any other option given
twice is a `Stop.misuse`. -/
def isRepeatable : Flag → Bool
  | forceInclude | forceExclude => true
  | _ => false

end Flag

/-- Where in a command line an argument stands. The name of a `Command` is read once, and from there
on the scope stays the same. -/
inductive Scope where
  /-- before the name of a command -/
  | program
  /-- behind `rewrite` -/
  | rewrite
  /-- behind `explain` -/
  | explain
  deriving DecidableEq, Repr

namespace Scope

/-- The options of a scope, among which a name is looked up. `version` is an option of the program
alone, and `write` and `check` are those of `rewrite`. -/
def flags : Scope → List Flag
  | program => [.verbose, .quiet, .help, .version]
  | rewrite =>
    [.verbose, .quiet, .help, .root, .write, .check, .format, .forceInclude, .forceExclude,
      .dynamicImports]
  | explain =>
    [.verbose, .quiet, .help, .root, .format, .forceInclude, .forceExclude, .dynamicImports]

/-- Whether one more operand can stand behind some others. An empty text is no path; `explain` takes
a single specifier, which can be empty. -/
def takesOperand (operand : Text) (others : Nat) : Scope → Bool
  | program => false
  | rewrite => operand ≠ []
  | explain => others = 0

end Scope

/-- Why no command is carried out. Asking for a text is here too, since it ends the reading of
arguments like a mistake does, whatever stands behind it. -/
inductive Stop where
  /-- the version was asked for -/
  | version
  /-- a help text was asked for -/
  | help
  /-- the arguments make no sense -/
  | misuse
  deriving DecidableEq, Repr

/-- What the arguments of a scope have given so far. Arguments are read one by one, and what one of
them leaves open for the next is `pending` or `operandsOnly`; nothing else of the past matters. -/
structure Given where
  /-- the options with their values, the last one first -/
  flags : List (Flag × Text)
  /-- the operands, the last one first -/
  operands : List Text
  /-- an option that waits for its value -/
  pending : Option Flag
  /-- whether only operands can follow -/
  operandsOnly : Bool
  deriving DecidableEq, Repr

namespace Given

/-- Nothing so far, as each scope starts with it. -/
def nothing : Given := ⟨[], [], none, false⟩

/-- Whether an option was given, with whatever value. -/
def has (g : Given) (f : Flag) : Bool := g.flags.any (·.1 == f)

/-- The values of an option in the order in which they were given, which is the order of patterns in
`RuleOptions`. -/
def values (g : Given) (f : Flag) : List Text :=
  (g.flags.reverse.filter (·.1 == f)).map (·.2)

/-- Adds an option with its value. `version` and `help` stop the reading at once; an option that is
no `isRepeatable` one is refused the second time, and so is an empty root. -/
def addFlag (g : Given) (f : Flag) (value : Text) : Except Stop Given :=
  match f with
  | .version => .error .version
  | .help => .error .help
  | f =>
    if (g.has f && !f.isRepeatable) || (f == .root && value == []) then .error .misuse
    else .ok { g with flags := (f, value) :: g.flags, pending := none }

/-- Adds an operand, if the scope takes one more (`Scope.takesOperand`). -/
def addOperand (scope : Scope) (g : Given) (operand : Text) : Except Stop Given :=
  if scope.takesOperand operand g.operands.length then
    .ok { g with operands := operand :: g.operands }
  else
    .error .misuse

/-- Reads short options that stand together. The first that takes a value takes all that is left of
the argument, less an `=`, or else the next argument. -/
def addShort (scope : Scope) : Given → Text → Except Stop Given
  | g, [] => .ok g
  | g, c :: rest =>
    match scope.flags.find? fun f => f.short? == some c with
    | none => .error .misuse
    | some f =>
      if f.takesValue then
        match rest with
        | [] => .ok { g with pending := some f }
        | '=' :: value => g.addFlag f value
        | value => g.addFlag f value
      else
        match g.addFlag f [] with
        | .error stop => .error stop
        | .ok g => addShort scope g rest

/-- Reads a long option, with the value that stands behind an `=`. A `Flag` without value refuses
even an empty one. -/
def addLong (scope : Scope) (g : Given) (text : Text) : Except Stop Given :=
  let name := text.takeWhile (· ≠ '=')
  match scope.flags.find? fun f => f.long == name, text.drop name.length with
  | none, _ => .error .misuse
  | some f, [] => if f.takesValue then .ok { g with pending := some f } else g.addFlag f []
  | some f, _ :: value => if f.takesValue then g.addFlag f value else .error .misuse

/-- Reads one argument. An argument that starts with a dash is never the value of a `pending`
option, except the dash alone. -/
def add (scope : Scope) (g : Given) (argument : Text) : Except Stop Given :=
  match g.pending with
  | some f =>
    match argument with
    | '-' :: _ :: _ => .error .misuse
    | value => g.addFlag f value
  | none =>
    if g.operandsOnly then g.addOperand scope argument
    else
      match argument with
      | ['-', '-'] => .ok { g with operandsOnly := true }
      | '-' :: '-' :: text => g.addLong scope text
      | '-' :: c :: text => g.addShort scope (c :: text)
      | operand => g.addOperand scope operand

/-- Reads all arguments of a command. An option that still waits for its value at the end is a
mistake. -/
def addAll (scope : Scope) : Given → List Text → Except Stop Given
  | g, [] => if g.pending.isSome then .error .misuse else .ok g
  | g, a :: rest =>
    match g.add scope a with
    | .error stop => .error stop
    | .ok g => addAll scope g rest

end Given

/-! ## Requests -/

/-- What the options for the rules ask for: the arguments of `Settings.extend`. -/
structure RuleOptions where
  /-- patterns of specifiers to force -/
  forceInclude : List Text
  /-- patterns of specifiers never to force -/
  forceExclude : List Text
  /-- whether dynamic imports are rewritten -/
  dynamicImports : Bool
  deriving DecidableEq, Repr

/-- Whether a run writes, and when it fails. The options `write` and `check` exclude each other, so
that there are three purposes and not four. -/
inductive Purpose where
  /-- to report -/
  | report
  /-- to fail when anything would be rewritten -/
  | check
  /-- to write -/
  | write
  deriving DecidableEq, Repr

/-- What a command is to do, with its operands. -/
inductive Command where
  /-- rewrite files -/
  | rewrite (paths : List FilePath) (purpose : Purpose)
  /-- explain how a specifier would be treated -/
  | explain (specifier : Text)
  deriving DecidableEq, Repr

/-- What a command line asks for. The format is still a name, because an unknown one is an error of
the run and not of the arguments. -/
structure Request where
  /-- the command -/
  command : Command
  /-- the root of the project, if given -/
  root : Option FilePath
  /-- the name of the format of the report -/
  format : Text
  /-- what the options for the rules ask for -/
  rules : RuleOptions
  /-- whether only results are shown -/
  quiet : Bool
  deriving DecidableEq, Repr

namespace Request

/-- The `Request` of a command, unless options contradict each other or the operand is missing. The
options of the program count for the command too, but they contradict only each other. -/
def ofGiven (program : Given) (scope : Scope) (g : Given) : Except Stop Request :=
  if g.has .verbose && g.has .quiet then .error .misuse
  else if g.has .write && g.has .check then .error .misuse
  else
    let command : Option Command := match scope with
      | .program => none
      | .rewrite =>
        some (.rewrite g.operands.reverse
          (if g.has .write then .write else if g.has .check then .check else .report))
      | .explain => g.operands.head?.map .explain
    match command with
    | none => .error .misuse
    | some command =>
      if program.has .verbose && program.has .quiet then .error .misuse
      else
        .ok
          { command
            root := (g.values .root).head?
            format := ((g.values .format).head?).getD "list".toList
            rules := ⟨g.values .forceInclude, g.values .forceExclude, g.has .dynamicImports⟩
            quiet := g.has .quiet || program.has .quiet }

/-- Reads the arguments of a command: all those behind its name (`Given.addAll`). -/
def ofCommand (program : Given) (scope : Scope) (arguments : List Text) : Except Stop Request :=
  match Given.nothing.addAll scope arguments with
  | .error stop => .error stop
  | .ok g => ofGiven program scope g

/-- Reads arguments behind those that `program` has taken, up to the name of a command. What is no
such name is an option of the program or a mistake, as the program itself takes no operand. -/
def ofRest (program : Given) : List Text → Except Stop Request
  | [] => .error .misuse
  | a :: rest =>
    if program.operandsOnly then .error .misuse
    else if a = "rewrite".toList then ofCommand program .rewrite rest
    else if a = "explain".toList then ofCommand program .explain rest
    else if a = "help".toList then
      match rest with
      | [] => .error .help
      | [name] =>
        if ["rewrite", "explain", "help"].contains (String.ofList name) then .error .help
        else .error .misuse
      | _ => .error .misuse
    else
      match program.add .program a with
      | .error stop => .error stop
      | .ok program => ofRest program rest

/-- Reads all arguments of a command line to a `Request`, the name of the program not among them. -/
def ofArguments (arguments : List Text) : Except Stop Request := ofRest .nothing arguments

end Request

end DotJs.CommandLine
