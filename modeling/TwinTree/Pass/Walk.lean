import TwinTree.Pass.State

/-!
# Walking the source tree

A directory is accounted for in the twin, then its files are handled in the order of their names,
then its subdirectories are entered in the order of theirs. Links to directories are not followed.
Entering a directory makes its path longer, and a path past the limit cannot be read, so the
number of bytes still allowed bounds the depth of the walk.
-/
namespace TwinTree

/-- An entry of a source directory. -/
structure SourceEntry where
  path : Path
  name : List Char
  isLink : Bool
  deriving DecidableEq, Repr

/-- Whether a text comes before another one, by the first character in which they differ. -/
def comesBefore (first second : List Char) : Bool := first.lex second

namespace SourceEntry

inductive Kind where
  | directory
  | file
  /-- Neither a directory nor a file, nor a link. -/
  | special
  deriving DecidableEq, Repr

/-- A link counts as a directory if it leads to one, and otherwise as a file. -/
def kind (fs : FileSystem) (path : Path) : Object → Kind
  | .directory => .directory
  | .file _ _ => .file
  | .link _ => if fs.isDirectory path then .directory else .file
  | _ => .special

/-- Puts an entry in front of the first whose name is not smaller. -/
def insertByName (entry : SourceEntry) : List SourceEntry → List SourceEntry
  | [] => [entry]
  | other :: rest =>
    if comesBefore other.name entry.name then other :: insertByName entry rest
    else entry :: other :: rest

/-- Orders entries by name; entries of one name keep their order. -/
def sortByName (entries : List SourceEntry) : List SourceEntry :=
  entries.foldr insertByName []

end SourceEntry

/-- The entries of a directory that matter, each list in the order of names. -/
structure Listing where
  directories : List SourceEntry
  files : List SourceEntry

namespace Pass

open SourceEntry in
/-- Sorts the entries of a directory by kind and warns of those that cannot be copied. -/
def classify (directory : Path) : List (Name × Object) → Pass Listing
  | [] => return ⟨[], []⟩
  | (name, object) :: rest => do
    let path := directory.join ⟨name⟩
    let entry : SourceEntry := ⟨path, Utf8.lossy name, object.isLink⟩
    match SourceEntry.kind (← fileSystem) path object with
    | .directory =>
      let listing ← classify directory rest
      return { listing with directories := entry :: listing.directories }
    | .file =>
      let listing ← classify directory rest
      return { listing with files := entry :: listing.files }
    | .special =>
      warn ("Special file skipped: " ++ path.display)
      classify directory rest

def list (directory : Path) : Pass Listing := do
  let entries ← ask (·.readDirectory directory) (.directoryNotRead directory)
  let listing ← classify directory entries
  return ⟨SourceEntry.sortByName listing.directories, SourceEntry.sortByName listing.files⟩

/-- Writes adapted content to its place, with the mode of the source. -/
def write (source destination : Path) (content : List UInt8) : Pass Unit := do
  change (·.ensureWritable destination) (.fileNotWritten destination)
  change (·.writeFile destination content) (.fileNotWritten destination)
  change (·.copyMode source destination) (.fileNotWritten destination)

/-- Copies a selected file of a directory, or says that it would. -/
def copy (task : Task) (directory path : Path) : Pass Unit := do
  let destination := Placement.file task.source task.twin task.options.renamings path
  if let some parent := destination.parent? then materialize task parent
  requireSafe task destination
  let stripping := task.policy directory
  let text ← ask (·.readText path) (.fileNotRead path)
  let content := Utf8.encode (adapt task.rules stripping text)
  let record : Record := ⟨path, destination, stripping⟩
  if task.options.dryRun then
    note .info ("Would copy " ++ path.display ++ " -> " ++ destination.display)
    count (·.addPlanned record)
  else
    note .info ("Copying " ++ path.display ++ " -> " ++ destination.display)
    write path destination content
    count (·.addCopied record)

/-- Whether a selected file has content to copy; a link may lead to something that has none. -/
def hasContent (entry : SourceEntry) : Pass Bool := do
  if !entry.isLink then return true
  let target ← ask (·.stat entry.path) fun reason =>
    .fileNotRead entry.path ("Broken symlink (" ++ reason ++ ")")
  if target.isRegular then return true
  warn ("Special file target skipped: " ++ entry.path.display)
  count .addSkipped
  return false

def handleFile (task : Task) (directory : Path) (entry : SourceEntry) : Pass Unit := do
  count .addScanned
  match Selection.ofName task.options task.excludedFiles entry.name with
  | .unrecognized => return
  | .skipped =>
    note .debug ("Skipped " ++ entry.path.display)
    count .addSkipped
  | .selected =>
    count .addMatched
    if ← hasContent entry then copy task directory entry.path

/-- Whether a subdirectory is to be entered. -/
def admits (task : Task) (entry : SourceEntry) : Pass Bool := do
  if isVersionControl entry.name then
    note .debug ("Skipped VCS metadata " ++ entry.path.display)
    return false
  else if task.excludedDirectories.excludes entry.name then
    note .debug ("Excluded " ++ entry.path.display)
    return false
  else if entry.isLink then
    warn ("Symlinked directory not followed: " ++ entry.path.display)
    return false
  else return true

/-- Walks a directory, going at most the given number of levels deeper. -/
def walk (task : Task) : Nat → Path → Pass Unit
  | 0, directory => throw (.directoryNotRead directory Failure.nameTooLong.message)
  | depth + 1, directory => do
    materialize task (Placement.directory task.source task.twin directory)
    let listing ← list directory
    listing.files.forM (handleFile task directory)
    listing.directories.forM fun entry => do
      if ← admits task entry then walk task depth entry.path

end Pass

end TwinTree
