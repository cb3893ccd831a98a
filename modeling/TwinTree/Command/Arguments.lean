import TwinTree.Options

/-!
# Command line arguments

Options are read in order, and the first fault decides. An option takes its value behind `=` or
from the next argument, which must not look like an option itself. Only `--verbose`,
`--policy-dir` and the two exclusions may be repeated.
-/
namespace TwinTree.Command

structure Arguments where
  root : Option String := none
  source : Option String := none
  destination : Option String := none
  policyDirectories : List String := []
  excludedDirectories : List String := []
  excludedFiles : List String := []
  patternMode : Option PatternMode := none
  dryRun : Bool := false
  quiet : Bool := false
  verbosity : Nat := 0
  deriving DecidableEq, Repr, Inhabited

/-- What the arguments ask for. -/
inductive Request where
  | run (arguments : Arguments)
  | showHelp
  | showVersion
  /-- The arguments make no sense. -/
  | refuse
  deriving DecidableEq, Repr

/-- Options that take a value. -/
inductive Valued where
  | root
  | source
  | destination
  | policyDirectory
  | excludedDirectory
  | excludedFile
  | patternMode
  deriving DecidableEq, Repr

/-- Options that take none. -/
inductive Switch where
  | dryRun
  | quiet
  | verbose
  | help
  | version
  deriving DecidableEq, Repr

namespace Valued

def ofName? (name : List Char) : Option Valued :=
  ([("root", root), ("source", source), ("destination", destination),
    ("policy-dir", policyDirectory), ("exclude-dir", excludedDirectory),
    ("exclude-file", excludedFile), ("pattern-mode", patternMode)].find? fun known =>
      known.1.toList == name).map (·.2)

/-- Takes a value, unless the option was there before or the value is not one for it. -/
def assign (option : Valued) (value : String) (arguments : Arguments) : Option Arguments :=
  match option with
  | root =>
    if arguments.root.isSome || value.isEmpty then none
    else some { arguments with root := some value }
  | source =>
    if arguments.source.isSome || value.isEmpty then none
    else some { arguments with source := some value }
  | destination =>
    if arguments.destination.isSome || value.isEmpty then none
    else some { arguments with destination := some value }
  | policyDirectory =>
    some { arguments with policyDirectories := arguments.policyDirectories ++ [value] }
  | excludedDirectory =>
    some { arguments with excludedDirectories := arguments.excludedDirectories ++ [value] }
  | excludedFile => some { arguments with excludedFiles := arguments.excludedFiles ++ [value] }
  | patternMode =>
    if arguments.patternMode.isSome then none
    else match value with
      | "glob" => some { arguments with patternMode := some .glob }
      | "regex" => some { arguments with patternMode := some .regex }
      | "literal" => some { arguments with patternMode := some .literal }
      | _ => none

end Valued

namespace Switch

def ofName? (name : List Char) : Option Switch :=
  ([("dry-run", dryRun), ("quiet", quiet), ("verbose", verbose), ("help", help),
    ("version", version)].find? fun known => known.1.toList == name).map (·.2)

def ofLetter? (letter : Char) : Option Switch :=
  match letter with
  | 'q' => some quiet
  | 'v' => some verbose
  | 'h' => some help
  | 'V' => some version
  | _ => none

/-- Notes a switch, or ends the reading with a request. -/
def apply (option : Switch) (arguments : Arguments) : Except Request Arguments :=
  match option with
  | dryRun => if arguments.dryRun then .error .refuse else .ok { arguments with dryRun := true }
  | quiet => if arguments.quiet then .error .refuse else .ok { arguments with quiet := true }
  | verbose => .ok { arguments with verbosity := arguments.verbosity + 1 }
  | help => .error .showHelp
  | version => .error .showVersion

/-- Notes a cluster of letters. -/
def applyLetters : List Char → Arguments → Except Request Arguments
  | [], arguments => .ok arguments
  | letter :: rest, arguments =>
    match ofLetter? letter with
    | none => .error .refuse
    | some option =>
      match option.apply arguments with
      | .ok arguments => applyLetters rest arguments
      | .error request => .error request

end Switch

/-- One argument that stands by itself: the options read so far, and the option whose value the
next argument is. -/
def readArgument (argument : List Char) (arguments : Arguments) :
    Except Request (Arguments × Option Valued) :=
  match argument with
  | '-' :: '-' :: long =>
    let name := long.takeWhile (· != '=')
    match long.dropWhile (· != '=') with
    | _ :: value =>
      match Valued.ofName? name with
      | none => .error .refuse
      | some option =>
        match option.assign (String.ofList value) arguments with
        | none => .error .refuse
        | some arguments => .ok (arguments, none)
    | [] =>
      match Switch.ofName? name, Valued.ofName? name with
      | some option, _ => (option.apply arguments).map (·, none)
      | none, some option => .ok (arguments, some option)
      | none, none => .error .refuse
  | '-' :: letter :: letters =>
    (Switch.applyLetters (letter :: letters) arguments).map (·, none)
  | _ => .error .refuse

/-- Whether an argument can be the value of the option before it. -/
def isValue : List Char → Bool
  | ['-'] => true
  | '-' :: _ => false
  | _ => true

/-- Reads arguments, the first of which may be the value of an option. -/
def readArguments : Option Valued → List String → Arguments → Request
  | none, [], arguments => .run arguments
  | some _, [], _ => .refuse
  | some option, argument :: rest, arguments =>
    if isValue argument.toList then
      match option.assign argument arguments with
      | some arguments => readArguments none rest arguments
      | none => .refuse
    else .refuse
  | none, argument :: rest, arguments =>
    if argument = "--" then if rest.isEmpty then .run arguments else .refuse
    else match readArgument argument.toList arguments with
      | .error request => request
      | .ok (arguments, pending) => readArguments pending rest arguments

def Request.ofArguments (arguments : List String) : Request := readArguments none arguments {}

end TwinTree.Command
