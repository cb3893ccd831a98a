import TwinTree.Proofs.Containment
import TwinTree.Proofs.Pass.Lockstep

/-!
# The check for overlap

Where the twin climbs from directories that exist, and it is not refused, making its root puts it
clear of the source (`twin_made_apart`), and no pass changes anything in the source. The check loses
its way at a climb from something missing: it then compares the text of the path, while making the
directories follows it (`overlap_missed_behind_climb`).
-/
namespace TwinTree

open FileSystem

/-- The root of the twin has been made clear of the source, which stays as it was. -/
structure MadeApart (source twin : Path) (fs made : FileSystem) (home root : Location) : Prop where
  found : fs.canonicalize source = .ok home
  found_again : made.canonicalize source = .ok home
  made_at : made.canonicalize (made.absolutize twin) = .ok root
  directory : made.get? root = some .directory
  not_within : ¬ home <:+ root
  not_above : ¬ root <:+ home
  spared : ∀ location, home <:+ location → made.get? location = fs.get? location

variable {fs : FileSystem} {source twin : Path} {isNew : Bool} {state : State}

namespace FileSystem

/-- Making the root of the twin, where no overlap has been found. -/
theorem madeApart_of_createDirectories {made : FileSystem} (wellFormed : fs.WellFormed)
    (anchored : fs.Anchored twin) (isDirectory : fs.isDirectory source = true)
    (apart : fs.overlaps source twin = false)
    (created : fs.createDirectories twin = (made, .ok ())) :
    ∃ home, MadeApart source twin fs made home (fs.prospect twin) := by
  obtain ⟨_, home, _, _, found⟩ := exists_canonicalize_of_isDirectory wellFormed isDirectory
  obtain ⟨notWithin, notAbove⟩ :=
    apart_of_overlaps wellFormed anchored (.inr (by rw [created])) found apart
  have evolves := createDirectories_evolves wellFormed anchored
  rw [created] at evolves
  obtain ⟨directory, spare, way⟩ := leads_of_createDirectories wellFormed anchored created
  refine ⟨home, found, evolves.canonicalize found,
    canonicalize_absolutize evolves.wellFormed directory way, directory, notWithin, notAbove, ?_⟩
  intro location inside
  -- What has been made lies above the root of the twin, and nothing in the source does.
  refine evolves.get?_eq fun object _ ⟨above, _⟩ => ?_
  exact notWithin (inside.trans above)

end FileSystem

end TwinTree
