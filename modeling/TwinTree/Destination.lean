import TwinTree.FileSystem.Access
import TwinTree.Pass.Error

/-!
# Checks on the destination

Two questions are asked before anything is written: whether the two trees overlap, and whether a
place in the twin is reached from its root through directories only. The destination need not
exist, so its normal form is that of the nearest ancestor that does, with the missing names put
back.
-/
namespace TwinTree

namespace FileSystem

/-- The path from the root, by its text alone. -/
def absolutize (fs : FileSystem) (path : Path) : Path :=
  if path.isAbsolute then path else fs.workingDirectory.toPath.join path

/-- The path of the place an existing path leads to; of any other path, its absolute text. -/
def normalize (fs : FileSystem) (path : Path) : Path :=
  match fs.canonicalize path with
  | .ok location => location.toPath
  | .error _ => fs.absolutize path

/-- Goes up a list of ancestors to one that exists and puts the names passed on the way, kept
outermost first, behind it. Where a path has no name to pass, `whole` is the answer. -/
def nearest (fs : FileSystem) (whole : Path) : List Path → List Name → Path
  | [], _ => whole
  | path :: above, passed =>
    match fs.canonicalize path with
    | .ok location => passed.foldl (fun path name => path.join ⟨name⟩) location.toPath
    | .error _ =>
      match path.parent?, path.fileName? with
      | some _, some name => nearest fs whole above (name :: passed)
      | _, _ => whole

/-- The place a path will lead to once it exists. -/
def normalizeMissing (fs : FileSystem) (path : Path) : Path :=
  fs.nearest (fs.absolutize path) (fs.absolutize path).ancestors []

/-- Whether one of the trees contains the other. -/
def overlaps (fs : FileSystem) (source destination : Path) : Bool :=
  let source := fs.normalize source
  let destination := fs.normalizeMissing destination
  destination.startsWith source || source.startsWith destination

end FileSystem

/-- Why a place in the twin is not safe. -/
inductive Escape where
  | outside (item root : Path)
  | link (path : Path)
  | inspection (path : Path) (failure : Failure)
  deriving DecidableEq, Repr

def Escape.message : Escape → String
  | outside item root =>
    "Unsafe destination path escapes destination root: " ++ item.display ++ " (root=" ++
      root.display ++ ")"
  | link path => "Unsafe destination path traverses symlink component: " ++ path.display
  | inspection path failure =>
    "Failed to inspect destination path component " ++ path.display ++ " (" ++
      failure.message ++ ")"

namespace FileSystem

/-- Goes down from a path component by component, up to the first that does not exist. -/
def inspect (fs : FileSystem) (path : Path) : List Component → Except Escape Unit
  | [] => .ok ()
  | component :: rest =>
    let path := path.join ⟨component.toName⟩
    match fs.lstat path with
    | .ok (.link _) => .error (.link path)
    | .ok _ => fs.inspect path rest
    | .error .notFound => .ok ()
    | .error failure => .error (.inspection path failure)

/-- Whether `item` is reached from `root` without a link on the way. -/
def checkSafe (fs : FileSystem) (item root : Path) : Except Escape Unit :=
  match (fs.absolutize item).stripStart? (fs.absolutize root) with
  | none => .error (.outside item root)
  | some inner => fs.inspect (fs.absolutize root) inner.components

end FileSystem

end TwinTree
