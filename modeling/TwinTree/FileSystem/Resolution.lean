import TwinTree.FileSystem.Basic

/-!
# Resolving paths

A path is resolved from the root or from the working directory, one segment at a time, following
symbolic links. A link counts against a budget, so a cycle of links ends in `tooManyLinks`; the
recursion is on that budget and, within one budget, on the segments. The last segment may name
nothing: the location is then where something could be created.
-/
namespace TwinTree

/-- Why an access to the file system fails. -/
inductive Failure where
  | notFound
  | noSuchDevice
  | exists
  | notDirectory
  | isDirectory
  | nameTooLong
  | tooManyLinks
  /-- The path holds a byte that no path may hold. -/
  | nulInPath
  /-- The content is not UTF-8. -/
  | illFormedText
  deriving DecidableEq, Repr

namespace Failure

def message : Failure → String
  | notFound => "No such file or directory (os error 2)"
  | noSuchDevice => "No such device or address (os error 6)"
  | «exists» => "File exists (os error 17)"
  | notDirectory => "Not a directory (os error 20)"
  | isDirectory => "Is a directory (os error 21)"
  | nameTooLong => "File name too long (os error 36)"
  | tooManyLinks => "Too many levels of symbolic links (os error 40)"
  | nulInPath => "file name contained an unexpected NUL byte"
  | illFormedText => "stream did not contain valid UTF-8"

end Failure

/-- The longest path an access takes, in bytes. -/
def pathLimit : Nat := 4095

/-- How many symbolic links one resolution follows. -/
def linkLimit : Nat := 40

namespace Path

/-- The pieces between slashes that name something, `.` and `..` included. -/
def names (path : Path) : List Name :=
  (path.head :: path.body).filter (!·.isEmpty)

/-- A slash behind other text asks for a directory. -/
def endsInSlash (path : Path) : Bool := path.bytes.getLast? == some slash

/-- What resolution goes through: a slash at the end stands for a last `.`. -/
def steps (path : Path) : List Name :=
  if path.endsInSlash then path.names ++ [dot] else path.names

end Path

namespace FileSystem

/-- Goes through segments from a location. `onLink` takes over at a link with the segments that
are then left and the location they start from; a link named by the last segment is taken as it
is unless `followLast`. -/
def walk (fs : FileSystem) (onLink : List Name → Location → Except Failure Location)
    (followLast : Bool) : List Name → Location → Except Failure Location
  | [], here => .ok here
  | segment :: rest, here =>
    match fs.get? here with
    | none => .error .notFound
    | some .directory =>
      if segment = dot then walk fs onLink followLast rest here
      else if segment = dotDot then walk fs onLink followLast rest here.tail
      else if nameLimit < segment.length then .error .nameTooLong
      else match fs.get? (segment :: here) with
        | some (.link target) =>
          if rest.isEmpty && !followLast then .ok (segment :: here)
          else onLink ((Path.mk target).steps ++ rest)
            (if (Path.mk target).isAbsolute then [] else here)
        | some _ => walk fs onLink followLast rest (segment :: here)
        | none => if rest.isEmpty then .ok (segment :: here) else .error .notFound
    | some _ => .error .notDirectory

/-- Goes through segments, following at most the given number of links. -/
def resolve (fs : FileSystem) (followLast : Bool) :
    Nat → List Name → Location → Except Failure Location
  | 0, segments, here => fs.walk (fun _ _ => .error .tooManyLinks) followLast segments here
  | links + 1, segments, here => fs.walk (fs.resolve followLast links) followLast segments here

/-- Where the resolution of a path starts. -/
def origin (fs : FileSystem) (path : Path) : Location :=
  if path.isAbsolute then [] else fs.workingDirectory

/-- Refuses paths that no access takes. -/
def checkText (path : Path) (limit : Nat) : Except Failure Unit :=
  if path.bytes.contains 0 then .error .nulInPath
  else if path.bytes.isEmpty then .error .notFound
  else if limit < path.bytes.length then .error .nameTooLong
  else .ok ()

/-- The location a path leads to, which may hold nothing yet. -/
def locate (fs : FileSystem) (path : Path) (followLast : Bool) : Except Failure Location := do
  checkText path pathLimit
  fs.resolve followLast linkLimit path.steps (fs.origin path)

/-- The directory in which the last segment of a path is looked up, and that segment. -/
def locateParent (fs : FileSystem) (path : Path) : Except Failure (Location × Option Name) := do
  checkText path pathLimit
  let above ← fs.resolve true linkLimit (path.names.dropLast ++ [dot]) (fs.origin path)
  return (above, path.names.getLast?)

/-- What stands at a location. -/
def require (fs : FileSystem) (location : Location) : Except Failure Object :=
  match fs.get? location with
  | some object => .ok object
  | none => .error .notFound

/-- The object a path leads to, links followed. -/
def stat (fs : FileSystem) (path : Path) : Except Failure Object := do
  fs.require (← fs.locate path true)

/-- The object a path names, which may be a link. -/
def lstat (fs : FileSystem) (path : Path) : Except Failure Object := do
  fs.require (← fs.locate path false)

/-- Whether a path leads to a directory. -/
def isDirectory (fs : FileSystem) (path : Path) : Bool :=
  match fs.stat path with
  | .ok object => object.isDirectory
  | .error _ => false

/-- The location an existing path leads to. Its own text may have any length, because it is read
piece by piece. What is found may be at any depth here; a system finds nothing where the path down
to it is past the limit, and then paths are compared as they are written. -/
def canonicalize (fs : FileSystem) (path : Path) : Except Failure Location := do
  checkText path path.bytes.length
  let location ← fs.resolve true linkLimit path.steps (fs.origin path)
  let _ ← fs.require location
  return location

end FileSystem

end TwinTree
