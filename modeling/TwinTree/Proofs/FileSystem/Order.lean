import TwinTree.FileSystem.Resolution
import TwinTree.Path.Lemmas

/-!
# Order in a file system

Every object lies in a directory, so what is beneath a location tells that a directory stands there
(`Orderly.directory_of_append`). A link may have a target that no path can be, and what is written
through it takes its name from there. So changes keep less than well-formedness: order, in which
names are components that fit, without regard to the bytes in them.
-/
namespace TwinTree.FileSystem

variable {fs : FileSystem} {location here : Location} {more : List Name} {object : Object}

/-- Every entry has names that are components and fit, has one object, and lies in a directory. -/
structure Orderly (fs : FileSystem) : Prop where
  nodup : (fs.entries.map Prod.fst).Nodup
  named : ∀ entry ∈ fs.entries, entry.1 ≠ []
  fitting : ∀ entry ∈ fs.entries, ∀ name ∈ entry.1, IsPlain name ∧ name.length ≤ nameLimit
  enclosed : ∀ entry ∈ fs.entries, fs.get? entry.1.tail = some .directory
  working : fs.get? fs.workingDirectory = some .directory

namespace Orderly

variable (orderly : fs.Orderly)

include orderly

theorem holds (found : fs.get? location = some object) :
    ∀ name ∈ location, IsPlain name ∧ name.length ≤ nameLimit := by
  cases location with
  | nil => simp
  | cons => exact orderly.fitting _ (mem_of_find? found)

/-- Everything lies in directories. -/
theorem get?_tail (found : fs.get? location = some object) :
    fs.get? location.tail = some .directory := by
  cases location with
  | nil => rfl
  | cons => exact orderly.enclosed _ (mem_of_find? found)

theorem get?_of_mem_children {found : Name × Object} (member : found ∈ fs.children location) :
    fs.get? (found.1 :: location) = some found.2 :=
  find?_of_mem orderly.nodup (mem_children.1 member)

theorem get?_origin (path : Path) : fs.get? (fs.origin path) = some .directory := by
  unfold origin
  split
  · rfl
  · exact orderly.working

/-- What holds a directory somewhere beneath it is a directory. -/
theorem directory_of_append (directory : fs.get? (more ++ here) = some .directory) :
    fs.get? here = some .directory := by
  induction more with
  | nil => exact directory
  | cons _ _ ih => exact ih (orderly.get?_tail directory)

/-- Beneath anything but a directory there is nothing. -/
theorem get?_append (noDirectory : fs.get? here ≠ some .directory) (nonempty : more ≠ []) :
    fs.get? (more ++ here) = none := by
  obtain ⟨name, above, rfl⟩ := List.exists_cons_of_ne_nil nonempty
  cases found : fs.get? (name :: above ++ here) with
  | none => rfl
  | some object => exact absurd (orderly.directory_of_append (orderly.get?_tail found)) noDirectory

end Orderly

namespace WellFormed

variable (wellFormed : fs.WellFormed)

include wellFormed

theorem orderly : fs.Orderly where
  nodup := wellFormed.nodup
  named := wellFormed.named
  fitting entry member name within :=
    have ordinary := wellFormed.ordinary entry member name within
    ⟨ordinary.isPlain, ordinary.length_le⟩
  enclosed := wellFormed.enclosed
  working := wellFormed.working

theorem isOrdinary (found : fs.get? here = some object) : ∀ name ∈ here, IsOrdinary name := by
  cases here with
  | nil => simp
  | cons name above => exact wellFormed.ordinary _ (mem_of_find? found)

theorem isPlain (found : fs.get? here = some object) : ∀ name ∈ here, IsPlain name :=
  fun name member => (wellFormed.isOrdinary found name member).isPlain

theorem get?_tail (found : fs.get? here = some object) : fs.get? here.tail = some .directory :=
  wellFormed.orderly.get?_tail found

theorem directory_of_append {more : Location}
    (directory : fs.get? (more ++ here) = some .directory) : fs.get? here = some .directory :=
  wellFormed.orderly.directory_of_append directory

theorem get?_append (noDirectory : fs.get? here ≠ some .directory) {more : Location}
    (nonempty : more ≠ []) : fs.get? (more ++ here) = none :=
  wellFormed.orderly.get?_append noDirectory nonempty

end WellFormed

theorem get?_origin (wellFormed : fs.WellFormed) (path : Path) :
    fs.get? (fs.origin path) = some .directory :=
  wellFormed.orderly.get?_origin path

end TwinTree.FileSystem
