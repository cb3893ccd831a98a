import TwinTree.Path.Basic

/-!
# Stripping policies

A policy says in which source directories linkage keywords are stripped. Stripping everywhere
would define symbols twice once the twin is linked against the sources.
-/
namespace TwinTree

abbrev Policy := Path → Bool

/-- Strips where the text of the directory's path ends in one of the suffixes, so `mycompiler`
ends in `compiler`. -/
def Policy.ofSuffixes (suffixes : List String) : Policy := fun directory =>
  suffixes.any fun suffix => suffix.toList.isSuffixOf directory.text

end TwinTree
