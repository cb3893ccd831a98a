import TwinTree.FileSystem.Resolution

/-!
# Reading and changing files

Each change either takes effect as a whole or fails and leaves everything as it was, which the
type `Except Failure FileSystem` says. The exception is `createDirectories`: it may have made some
of the missing directories when it fails, so it gives the file system back in every case.
-/
namespace TwinTree.FileSystem

/-- The mode of a file that an access creates. -/
def newFileMode : Nat := 0o644

/-- The bit that lets the owner write. -/
def ownerWrite : Nat := 0o200

/-- The entries of the directory a path leads to, in listing order. -/
def readDirectory (fs : FileSystem) (path : Path) : Except Failure (List (Name × Object)) := do
  let location ← fs.locate path true
  match ← fs.require location with
  | .directory => return fs.children location
  | _ => .error .notDirectory

/-- The content of the file a path leads to, which must be text. Nothing comes out of a FIFO or a
device. -/
def readText (fs : FileSystem) (path : Path) : Except Failure (List Char) := do
  match ← fs.stat path with
  | .directory => .error .isDirectory
  | .socket => .error .noSuchDevice
  | .file content _ =>
    match Utf8.decode? content with
    | some text => return text
    | none => .error .illFormedText
  | _ => return []

/-- Makes one directory in a directory that exists. -/
def makeDirectory (fs : FileSystem) (path : Path) : Except Failure FileSystem := do
  match ← fs.locateParent path with
  | (_, none) => .error .exists
  | (above, some last) =>
    if last = dot ∨ last = dotDot then .error .exists
    else if nameLimit < last.length then .error .nameTooLong
    else match fs.get? (last :: above) with
      | some _ => .error .exists
      | none => return fs.insert (last :: above) .directory

/-- Writes a whole file, through a link if the path names one; a file that was there keeps its
mode. What is written to a FIFO, once it has a reader, or to a device leaves everything as it was;
nothing can be written to a socket. -/
def writeFile (fs : FileSystem) (path : Path) (content : List UInt8) :
    Except Failure FileSystem := do
  match ← fs.locateParent path with
  | (_, none) => .error .isDirectory
  | (_, some last) =>
    if path.endsInSlash ∨ last = dot ∨ last = dotDot then .error .isDirectory
    else
      let location ← fs.locate path true
      match fs.get? location with
      | none => return fs.insert location (.file content newFileMode)
      | some (.file _ mode) => return fs.insert location (.file content mode)
      | some .directory => .error .isDirectory
      | some .fifo | some .device => return fs
      | some _ => .error .noSuchDevice

/-- Sets the mode of the object a path leads to. -/
def setMode (fs : FileSystem) (path : Path) (mode : Nat) : Except Failure FileSystem := do
  let location ← fs.locate path true
  match ← fs.require location with
  | .file content _ => return fs.insert location (.file content mode)
  | _ => return fs

/-- Lets the owner write to a regular file. A path that names nothing, or something else, needs
nothing done. -/
def ensureWritable (fs : FileSystem) (path : Path) : Except Failure FileSystem :=
  match fs.lstat path with
  | .error .notFound => .ok fs
  | .error failure => .error failure
  | .ok (.file _ mode) => fs.setMode path (mode ||| ownerWrite)
  | .ok _ => .ok fs

/-- Gives a file the mode of another one, the owner's right to write added. -/
def copyMode (fs : FileSystem) (source destination : Path) : Except Failure FileSystem := do
  let object ← fs.stat source
  fs.setMode destination (object.mode ||| ownerWrite)

/-- Takes a failure to make a directory as success where there is a directory. -/
def settle (fs : FileSystem) (path : Path) : Except Failure FileSystem →
    FileSystem × Except Failure Unit
  | .ok made => (made, .ok ())
  | .error failure => (fs, if fs.isDirectory path then .ok () else .error failure)

/-- Makes the first of a list of paths a directory, each next one being the parent of the one
before: a parent is made only where it is missing. -/
def createDirectoriesFrom : List Path → FileSystem → FileSystem × Except Failure Unit
  | [], fs => (fs, .error .notFound)
  | path :: above, fs =>
    if path.bytes.isEmpty then (fs, .ok ())
    else match fs.makeDirectory path with
      | .error .notFound =>
        match createDirectoriesFrom above fs with
        | (made, .ok ()) => settle made path (made.makeDirectory path)
        | failed => failed
      | outcome => settle fs path outcome

/-- Makes a directory and what is missing above it. -/
def createDirectories (fs : FileSystem) (path : Path) : FileSystem × Except Failure Unit :=
  createDirectoriesFrom path.ancestors fs

end TwinTree.FileSystem
