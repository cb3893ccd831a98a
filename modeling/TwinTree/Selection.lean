import TwinTree.Options

/-!
# Selecting files

A file takes part by the end of its name, unless a skipped suffix or a pattern leaves it out.
-/
namespace TwinTree

inductive Selection where
  | selected
  /-- The name has none of the recognized endings. -/
  | unrecognized
  /-- The name is recognized, but left out. -/
  | skipped
  deriving DecidableEq, Repr

/-- Whether a name ends in one of the suffixes. -/
def endsInOneOf (name : List Char) (suffixes : List String) : Bool :=
  suffixes.any fun suffix => suffix.toList.isSuffixOf name

namespace Selection

def ofName (options : Options) (excluded : Exclusions) (name : List Char) : Selection :=
  if !endsInOneOf name options.extensions then unrecognized
  else if endsInOneOf name options.skippedSuffixes || excluded.excludes name then skipped
  else selected

end Selection

end TwinTree
