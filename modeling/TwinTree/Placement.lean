import TwinTree.Options
import TwinTree.Path.Basic

/-!
# Places in the twin

A source directory keeps its position: the path of the source root gives way to that of the twin.
A file keeps its directory, and its name goes through the renamings.
-/
namespace TwinTree

namespace Renaming

/-- The name after the first renaming that fits. -/
def rename (renamings : List Renaming) (name : List Char) : List Char :=
  match renamings.find? fun candidate => candidate.suffix.toList.isSuffixOf name with
  | some fitting => fitting.replacement.toList
  | none => name

end Renaming

namespace Placement

/-- Where a source directory stands in the twin; a directory outside the source is at its root. -/
def directory (source twin path : Path) : Path :=
  match path.stripStart? source with
  | none => twin
  | some inner => if inner.bytes.isEmpty then twin else twin.join inner

/-- Where a source file stands in the twin. -/
def file (source twin : Path) (renamings : List Renaming) (path : Path) : Path :=
  match path.fileName? with
  | none => twin
  | some name =>
    let above := match path.parent? with
      | some parent => directory source twin parent
      | none => twin
    above.join (.ofText (Renaming.rename renamings (Utf8.lossy name)))

end Placement

end TwinTree
