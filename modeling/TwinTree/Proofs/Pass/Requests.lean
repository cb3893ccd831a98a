import TwinTree.Pass.Run

/-!
# What a pass asks of the system

A step of a pass makes calls, one after the other, and where the system refuses one of them the step
ends in an error. The requests of a step are these calls as the state shows them that the step
begins in, each with the error that its refusal becomes.

A refusal that a pass takes for an answer is left out: whether a path can be resolved while the two
arguments are compared, whether the root of the twin is a link, and whether a link of the source
leads to a directory.
-/
namespace TwinTree

open FileSystem

/-- A call of the system. Making a directory and what is missing above it is one of them. -/
inductive Call where
  | stat (path : Path)
  | lstat (path : Path)
  | readDirectory (path : Path)
  | readText (path : Path)
  | createDirectories (path : Path)
  | setMode (path : Path)
  | writeFile (path : Path)
  deriving DecidableEq, Repr

/-- A call, and the error that a pass ends in when the call is refused for a reason. -/
structure Request where
  call : Call
  raise : String → Error

namespace Pass

/-- Asks for the source. What cannot be looked at is no directory. -/
def argumentRequests (source : Path) : List Request :=
  [⟨.stat source, fun _ => .sourceNotDirectory source⟩]

/-- Asks for the root of the twin, which a dry run does not make. -/
def rootRequests (twin : Path) (dryRun : Bool) : List Request :=
  if dryRun then [] else [⟨.createDirectories twin, .destinationNotReady twin⟩]

/-- Asks for each place on the way down from a path, up to a link or the first that is missing. -/
def inspectionRequests (fs : FileSystem) (path : Path) : List Component → List Request
  | [] => []
  | component :: rest =>
    let path := path.join ⟨component.toName⟩
    let request : Request := ⟨.lstat path, fun reason => .unsafeDestination
      ("Failed to inspect destination path component " ++ path.display ++ " (" ++ reason ++ ")")⟩
    match fs.lstat path with
    | .ok (.link _) => [request]
    | .ok _ => request :: inspectionRequests fs path rest
    | .error _ => [request]

/-- Asks for what stands between the root of the twin and a path. -/
def safetyRequests (task : Task) (path : Path) (state : State) : List Request :=
  let fs := state.fileSystem
  match (fs.absolutize path).stripStart? (fs.absolutize task.twin) with
  | some inner => inspectionRequests fs (fs.absolutize task.twin) inner.components
  | none => []

/-- Asks for a directory of the twin that is not known yet, which a dry run only looks for. -/
def directoryRequests (task : Task) (path : Path) (state : State) : List Request :=
  if state.materialized.any fun known => decide (known.Same path) then []
  else safetyRequests task path state ++
    match task.options.dryRun, state.fileSystem.checkSafe path task.twin with
    | false, .ok () => [⟨.createDirectories path, .directoryNotCreated path⟩]
    | _, _ => []

def listRequests (directory : Path) : List Request :=
  [⟨.readDirectory directory, .directoryNotRead directory⟩]

/-- Asks what a link leads to. -/
def contentRequests (entry : SourceEntry) : List Request :=
  if entry.isLink then
    [⟨.stat entry.path, fun reason =>
      .fileNotRead entry.path ("Broken symlink (" ++ reason ++ ")")⟩]
  else []

def readRequests (path : Path) : List Request := [⟨.readText path, .fileNotRead path⟩]

/-- Asks what stands at a path, and for its mode if that is a file. -/
def openRequests (path : Path) (state : State) : List Request :=
  ⟨.lstat path, .fileNotWritten path⟩ ::
    match state.fileSystem.lstat path with
    | .ok (.file _ _) => [⟨.setMode path, .fileNotWritten path⟩]
    | _ => []

def writeRequests (path : Path) : List Request := [⟨.writeFile path, .fileNotWritten path⟩]

/-- Asks for the mode of one path, to set that of another. -/
def modeRequests (source destination : Path) (state : State) : List Request :=
  ⟨.stat source, .fileNotWritten destination⟩ ::
    match state.fileSystem.stat source with
    | .ok _ => [⟨.setMode destination, .fileNotWritten destination⟩]
    | .error _ => []

end Pass

end TwinTree
