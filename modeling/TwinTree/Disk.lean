import TwinTree.Command.Arguments
import TwinTree.FileSystem.Access

/-!
# Images of the disk

A command runs on an image of the part of the disk that its paths can reach, and what the run
changed in the image is then done on the disk. Here the system tells neither the text of a link
nor the mode of a file: in an image a link holds the full path of what it leads to, and every file
has the mode of a new one.
-/
namespace TwinTree.Disk

/-- The location of what a path leads to, if it leads to something. -/
def locate? (path : String) : IO (Option Location) := do
  try
    let found ← IO.FS.realPath path
    return some (Path.ofString found.toString).names.reverse
  catch _ => return none

/-- The entry of the disk at a location. -/
def entryAt : Location → IO.FS.DirEntry
  | [] => ⟨"/", "."⟩
  | name :: above => ⟨(Location.toPath above).display, (Path.mk name).display⟩

/-- A link that leads nowhere holds a name that no disk holds, or its own if it leads in a
circle. -/
def lookAtBrokenLink (location : Location) : IO Object := do
  try
    let _ ← (entryAt location).path.metadata
    return .link [0]
  catch
    | .noFileOrDirectory .. => return .link [0]
    | _ => return .link (location.headD [0])

/-- What stands at a location, if it can be read. Nothing is written to what is neither a file nor a
directory nor a link, so it passes for a socket. -/
def lookAt? (location : Location) : IO (Option Object) := do
  let place := (entryAt location).path
  try
    match (← place.symlinkMetadata).type with
    | .dir => return some .directory
    | .file => return some (.file (← IO.FS.readBinFile place).toList FileSystem.newFileMode)
    | .symlink =>
      match ← locate? place.toString with
      | some target => return some (.link target.toPath.bytes)
      | none => return some (← lookAtBrokenLink location)
    | .other => return some .socket
  catch _ => return none

/-- Puts an object where the image has none. -/
def add (image : FileSystem) (location : Location) (object : Object) : FileSystem :=
  if (image.get? location).isSome then image else image.insert location object

/-- Makes a location and what is above it directories where the image has nothing. -/
def addDirectories (image : FileSystem) : Location → FileSystem
  | [] => image
  | name :: above => add (addDirectories image above) (name :: above) .directory

/-- Puts an object and the directories above it into an image. -/
def addBeneath (image : FileSystem) (location : Location) (object : Object) : FileSystem :=
  add (addDirectories image location.tail) location object

/-- Puts what stands at a location into an image, and what a link there leads to. -/
def loadOne (image : FileSystem) (location : Location) : IO FileSystem := do
  match ← lookAt? location with
  | none => return image
  | some (.link text) =>
    let image := addBeneath image location (.link text)
    match ← locate? (entryAt location).path.toString with
    | none => return image
    | some target =>
      match ← lookAt? target with
      | none => return image
      | some object => return addBeneath image target object
  | some object => return addBeneath image location object

/-- Puts a location and what stands beneath it into an image, down to the given depth. -/
def loadTree : Nat → FileSystem → Location → IO FileSystem
  | 0, image, _ => return image
  | depth + 1, image, location => do
    let image ← loadOne image location
    match image.get? location with
    | some .directory =>
      (← (entryAt location).path.readDir).toList.foldlM
        (fun image entry => loadTree depth image ((Path.ofString entry.fileName).bytes :: location))
        image
    | _ => return image

/-- Puts what the components of a path name into an image, from the path `above` on. -/
def loadAlong (image : FileSystem) (above : Path) : List Component → IO FileSystem
  | [] => return image
  | component :: rest => do
    let path := above.join ⟨component.toName⟩
    match component, ← locate? above.display with
    | .name name, some location => loadAlong (← loadOne image (name :: location)) path rest
    | _, _ => loadAlong image path rest

/-- Puts everything that a path goes through and leads to into an image. -/
def load (image : FileSystem) (path : Path) : IO FileSystem := do
  let image ← loadAlong image ⟨dot⟩ path.components
  match ← locate? path.display with
  | some location => loadTree pathLimit image location
  | none => return image

/-- The part of the disk that some paths reach from the working directory. -/
def imageOf (paths : List Path) : IO FileSystem := do
  let here := (← locate? ".").getD []
  let empty : FileSystem := { entries := [], workingDirectory := here }
  paths.foldlM load (addBeneath empty here .directory)

/-- Does on the disk what leads from one image to another. -/
def update (before after : FileSystem) : IO Unit :=
  after.entries.forM fun (location, object) => do
    let place := (entryAt location).path
    if before.get? location ≠ some object then
      match object with
      | .directory => IO.FS.createDir place
      | .file content _ =>
        if (before.get? location).isSome then
          let owner : IO.AccessRight := { read := true, write := true }
          let others : IO.AccessRight := { read := true }
          IO.setAccessRights place ⟨owner, others, others⟩
        IO.FS.writeBinFile place ⟨content.toArray⟩
      | _ => return

end TwinTree.Disk
