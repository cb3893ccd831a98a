import TwinTree.Pass.Walk

/-!
# A whole pass

A pass checks its arguments, prepares the root of the twin, and walks the source. `derive` runs a
pass on a file system and gives everything that can be observed of it.
-/
namespace TwinTree

namespace Pass

/-- Refuses arguments before anything is changed. -/
def checkArguments (source twin : Path) : Pass Unit := do
  let fs ← fileSystem
  if !fs.isDirectory source then throw (.sourceNotDirectory source)
  if fs.overlaps source twin then throw (.overlap source twin)
  if let .ok (.link _) := fs.lstat twin then
    throw (.destinationNotReady twin "Destination root path must not be a symbolic link.")

/-- Reads the patterns of the options, those for directories first. -/
def prepare (source twin : Path) (options : Options) (policy : Policy) : Except String Task := do
  let excludedDirectories ← Exclusions.parse? options.patternMode options.excludedDirectories
  let excludedFiles ← Exclusions.parse? options.patternMode options.excludedFiles
  return { source, twin, options, policy, excludedDirectories, excludedFiles,
           rules := Rule.standard options.vocabulary }

/-- Makes the root of the twin, which a dry run leaves to the walk. -/
def prepareRoot (twin : Path) (dryRun : Bool) : Pass Unit := do
  if dryRun then return
  if ← tryCatch (ensureDirectory twin) fun error =>
      match error with
      | .directoryNotCreated path reason => throw (.destinationNotReady path reason)
      | error => throw error
  then count .addDirectory

/-- A path deeper than this cannot be read. -/
def depthLimit : Nat := pathLimit + 1

def run (source twin : Path) (options : Options) (policy : Policy) : Pass Report := do
  checkArguments source twin
  match prepare source twin options policy with
  | .error reason => throw (.invalidPattern ("Invalid exclude pattern: " ++ reason))
  | .ok task =>
    prepareRoot twin options.dryRun
    walk task depthLimit source
    return (← get).journal.report

end Pass

/-- What a pass leaves behind, whether it succeeds or not. -/
structure Outcome where
  result : Except Error Report
  log : List Log.Entry
  fileSystem : FileSystem

/-- Runs a pass under a policy. -/
def deriveWith (fs : FileSystem) (source twin : Path) (options : Options) (policy : Policy) :
    Outcome :=
  match EStateM.run (Pass.run source twin options policy) { fileSystem := fs } with
  | .ok report state => ⟨.ok report, state.journal.log, state.fileSystem⟩
  | .error error state => ⟨.error error, state.journal.log, state.fileSystem⟩

/-- Runs a pass under the policy of its options. -/
def derive (fs : FileSystem) (source twin : Path) (options : Options) : Outcome :=
  deriveWith fs source twin options (.ofSuffixes options.strippedSuffixes)

end TwinTree
