import TwinTree.Pattern.Matcher
import TwinTree.Rule

/-!
# Options

What is copied, under which name, and how content is adapted. The defaults are those of the
command line.
-/
namespace TwinTree

/-- A file whose name ends in `suffix` is called `replacement` in the twin. -/
structure Renaming where
  suffix : String
  replacement : String
  deriving DecidableEq, Repr, Inhabited

structure Options where
  /-- Endings of the file names that take part. -/
  extensions : List String := [".c", ".cpp", ".h", ".hpp"]
  /-- Endings of the file names that are left out all the same. -/
  skippedSuffixes : List String := ["main.c"]
  /-- The first renaming that fits a name decides. -/
  renamings : List Renaming :=
    [⟨"hazel.h", "HazelInternalTests.h"⟩, ⟨"maininternaltests.c", "main.c"⟩]
  /-- Endings of the paths of the directories in which linkage keywords are stripped. -/
  strippedSuffixes : List String := ["compiler"]
  /-- Patterns for the names of directories that are not entered. -/
  excludedDirectories : Option (List String) := none
  /-- Patterns for the names of files that are left out. -/
  excludedFiles : Option (List String) := none
  patternMode : PatternMode := .glob
  vocabulary : Vocabulary := {}
  /-- Only say what would be copied. -/
  dryRun : Bool := false
  deriving DecidableEq, Repr, Inhabited

/-- Directories that belong to version control are never entered. -/
def versionControlNames : List String := [".git", ".hg", ".svn"]

def isVersionControl (name : List Char) : Bool :=
  versionControlNames.any fun known => known.toList == name

end TwinTree
