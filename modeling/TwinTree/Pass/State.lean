import TwinTree.Destination
import TwinTree.Journal
import TwinTree.Placement
import TwinTree.Policy
import TwinTree.Selection

/-!
# The state of a pass

A pass changes a file system and keeps a journal and the list of the directories of the twin that
it has accounted for. An error keeps all of them: what was written before it stays.
-/
namespace TwinTree

structure State where
  fileSystem : FileSystem
  journal : Journal := {}
  /-- Directories of the twin that exist, or that a dry run takes to exist. -/
  materialized : List Path := []
  deriving Inhabited

abbrev Pass := EStateM Error State

/-- What stays the same during a pass. -/
structure Task where
  source : Path
  twin : Path
  options : Options
  policy : Policy
  excludedDirectories : Exclusions
  excludedFiles : Exclusions
  rules : List Rule

namespace Pass

def fileSystem : Pass FileSystem := return (← get).fileSystem

def count (change : Report → Report) : Pass Unit :=
  modify fun state => { state with journal := state.journal.count change }

def note (level : Log.Level) (message : String) : Pass Unit :=
  modify fun state => { state with journal := state.journal.note level message }

def warn (warning : String) : Pass Unit :=
  modify fun state => { state with journal := state.journal.warn warning }

/-- Asks the file system; a failure becomes the given error. -/
def ask {α : Type} (question : FileSystem → Except Failure α) (error : String → Error) :
    Pass α := do
  match question (← fileSystem) with
  | .ok answer => return answer
  | .error failure => throw (error failure.message)

/-- Changes the file system; a failure becomes the given error and changes nothing. -/
def change (action : FileSystem → Except Failure FileSystem) (error : String → Error) :
    Pass Unit := do
  let changed ← ask action error
  modify fun state => { state with fileSystem := changed }

def isMaterialized (path : Path) : Pass Bool :=
  return (← get).materialized.any fun known => decide (known.Same path)

def addMaterialized (path : Path) : Pass Unit :=
  modify fun state => { state with materialized := state.materialized ++ [path] }

/-- Makes sure that a directory exists; says whether it was new to this pass. -/
def ensureDirectory (path : Path) : Pass Bool := do
  if ← isMaterialized path then return false
  let (changed, outcome) := (← fileSystem).createDirectories path
  modify fun state => { state with fileSystem := changed }
  match outcome with
  | .error failure => throw (.directoryNotCreated path failure.message)
  | .ok () =>
    addMaterialized path
    return true

/-- Refuses a place outside the twin, or behind a link in it. -/
def requireSafe (task : Task) (path : Path) : Pass Unit := do
  match (← fileSystem).checkSafe path task.twin with
  | .ok () => return
  | .error escape => throw (.unsafeDestination escape.message)

/-- Accounts for a directory of the twin, which a dry run does not make. -/
def materialize (task : Task) (path : Path) : Pass Unit := do
  if ← isMaterialized path then return
  requireSafe task path
  if task.options.dryRun then
    addMaterialized path
    count .addDirectory
  else if ← ensureDirectory path then
    note .debug ("Materialized " ++ path.display)
    count .addDirectory

end Pass

end TwinTree
