import TwinTree.Path.Basic

/-!
# Errors that end a pass
-/
namespace TwinTree

inductive Error where
  | invalidPattern (reason : String)
  | sourceNotDirectory (path : Path)
  /-- One of the trees would contain the other. -/
  | overlap (source destination : Path)
  /-- The root of the twin cannot be used. -/
  | destinationNotReady (path : Path) (reason : String)
  | directoryNotCreated (path : Path) (reason : String)
  | directoryNotRead (path : Path) (reason : String)
  | fileNotRead (path : Path) (reason : String)
  | fileNotWritten (path : Path) (reason : String)
  /-- A place in the twin is outside it, or reached through a link. -/
  | unsafeDestination (reason : String)
  deriving DecidableEq, Repr

def Error.message : Error → String
  | invalidPattern reason => reason
  | sourceNotDirectory path => "Source is not a directory: " ++ path.display
  | overlap source destination =>
    "Source and destination directories overlap: " ++ source.display ++ " <-> " ++
      destination.display
  | destinationNotReady path reason =>
    "Failed to initialize destination " ++ path.display ++ ": " ++ reason
  | directoryNotCreated path reason =>
    "Failed to create directory " ++ path.display ++ ": " ++ reason
  | directoryNotRead path reason =>
    "Failed to read directory " ++ path.display ++ ": " ++ reason
  | fileNotRead path reason => "Failed to read " ++ path.display ++ ": " ++ reason
  | fileNotWritten path reason => "Failed to write " ++ path.display ++ ": " ++ reason
  | unsafeDestination reason => reason

end TwinTree
