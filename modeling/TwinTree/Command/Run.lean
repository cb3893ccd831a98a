import TwinTree.Command.Arguments
import TwinTree.Log.Filter
import TwinTree.Pass.Run

/-!
# Running the command

The command derives a twin from the project's source tree and shows log lines, a closing line and,
if asked to be verbose, the report. What it prints, its exit code and the file system it leaves are
the result of a function of its arguments, its environment and the file system it finds.
-/
namespace TwinTree.Command

structure Result where
  code : Nat
  output : String
  errors : String
  fileSystem : FileSystem

namespace Arguments

/-- The specification of log lines that holds unless the environment has one. -/
def defaultSpecification (arguments : Arguments) : String :=
  if arguments.quiet then "warn"
  else match arguments.verbosity with
    | 0 => "info"
    | 1 => "debug"
    | _ => "trace"

def rootPath (arguments : Arguments) : Path := .ofString (arguments.root.getD ".")

def sourcePath (arguments : Arguments) : Path :=
  match arguments.source with
  | some source => .ofString source
  | none => arguments.rootPath.join (.ofString "hazel")

def destinationPath (arguments : Arguments) : Path :=
  match arguments.destination with
  | some destination => .ofString destination
  | none => arguments.rootPath.join (.ofString "HazelInternalTests")

/-- Lists that are not given leave the defaults. -/
def toOptions (arguments : Arguments) : Options :=
  let defaults : Options := {}
  { defaults with
    patternMode := arguments.patternMode.getD .glob
    dryRun := arguments.dryRun
    strippedSuffixes :=
      if arguments.policyDirectories.isEmpty then defaults.strippedSuffixes
      else arguments.policyDirectories
    excludedDirectories :=
      if arguments.excludedDirectories.isEmpty then defaults.excludedDirectories
      else some arguments.excludedDirectories
    excludedFiles :=
      if arguments.excludedFiles.isEmpty then defaults.excludedFiles
      else some arguments.excludedFiles }

end Arguments

def versionText : String := "linkmirror 0.1.0\n"

def usageText : String :=
  "Usage: linkmirror [--root <ROOT>] [--source <SOURCE>] [--destination <DESTINATION>]\n" ++
  "                  [--policy-dir <SUFFIX>]... [--exclude-dir <PATTERN>]...\n" ++
  "                  [--exclude-file <PATTERN>]... [--pattern-mode <glob|regex|literal>]\n" ++
  "                  [--dry-run] [-q|--quiet] [-v|--verbose]... [-h|--help] [-V|--version]\n"

/-- The closing line of a pass that succeeded, and the report if asked for. -/
def closing (arguments : Arguments) (report : Report) : String :=
  let name := arguments.toOptions.vocabulary.displayName
  let line :=
    if arguments.dryRun then
      "\nDry run: would copy " ++ report.records.length.repr ++ " source files from " ++ name ++
        ".\n"
    else "\nCopied " ++ report.copied.repr ++ " source files from " ++ name ++ ".\n"
  if arguments.verbosity = 0 then line else line ++ report.display ++ "\n"

/-- The log lines of a pass that a specification lets through, behind the warnings about it. -/
def shownLog (specification : String) (log : List Log.Entry) : String :=
  let reading := Log.Filter.parse specification
  String.join (reading.warnings.map fun warning => "warning: " ++ warning ++ ", ignoring it\n") ++
    String.join ((log.filter reading.filter.admits).map (·.display))

def runPass (arguments : Arguments) (specification : Option String) (fs : FileSystem) : Result :=
  let outcome := derive fs arguments.sourcePath arguments.destinationPath arguments.toOptions
  let shown := shownLog (specification.getD arguments.defaultSpecification) outcome.log
  match outcome.result with
  | .ok report => ⟨0, closing arguments report, shown, outcome.fileSystem⟩
  | .error error => ⟨1, "", shown ++ "error: " ++ error.message ++ "\n", outcome.fileSystem⟩

/-- Runs the command. The specification of log lines is the one in the environment, if any. -/
def run (arguments : List String) (specification : Option String) (fs : FileSystem) : Result :=
  match Request.ofArguments arguments with
  | .run arguments => runPass arguments specification fs
  | .showHelp => ⟨0, usageText, "", fs⟩
  | .showVersion => ⟨0, versionText, "", fs⟩
  | .refuse => ⟨2, "", usageText, fs⟩

end TwinTree.Command
