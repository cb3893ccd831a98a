import TwinTree.Proofs.Destination.Safety
import TwinTree.Proofs.FileSystem.Naming

/-!
# What every access keeps

Wherever a path leads, the access that changes a file system there takes nothing away and leaves it
in order (`createDirectories_extends`, `writeFile_extends`).
-/
namespace TwinTree.FileSystem

variable {fs middle made : FileSystem} {path : Path} {name : Name} {above location : Location}
  {object : Object}

theorem Orderly.namesPlain (orderly : fs.Orderly) : fs.NamesPlain where
  entries entry member name within := (orderly.fitting entry member name within).1
  working name member := (orderly.holds orderly.working name member).1

/-! ### Extension -/

/-- Nothing has been taken away, and there is order. -/
structure Extends (fs made : FileSystem) : Prop where
  orderly : made.Orderly
  working : made.workingDirectory = fs.workingDirectory
  developed : ∀ location, Developed (fs.get? location) (made.get? location)

namespace Extends

theorem refl (orderly : fs.Orderly) : Extends fs fs := ⟨orderly, rfl, fun _ => .same⟩

theorem trans (first : Extends fs middle) (second : Extends middle made) : Extends fs made where
  orderly := second.orderly
  working := second.working.trans first.working
  developed location := (first.developed location).trans (second.developed location)

theorem directory (extended : Extends fs made) (found : fs.get? location = some .directory) :
    made.get? location = some .directory :=
  (extended.developed location).directory found

theorem existing (extended : Extends fs made) (found : fs.get? location ≠ none) :
    made.get? location ≠ none :=
  fun missing => found ((extended.developed location).missing missing)

theorem origin_eq (extended : Extends fs made) (path : Path) :
    made.origin path = fs.origin path := by
  rw [origin, origin, extended.working]

theorem leads (extended : Extends fs made) {links left : Nat} {segments : List Name}
    {here there : Location} (leads : Leads fs links segments here left there) :
    Leads made links segments here left there :=
  leads.develop extended.developed

theorem isDirectory (extended : Extends fs made) (found : fs.isDirectory path = true) :
    made.isDirectory path = true := by
  obtain ⟨accepted, left, there, leads, standing⟩ := isDirectory_iff.1 found
  exact isDirectory_iff.2 ⟨accepted, left, there, extended.origin_eq path ▸ extended.leads leads,
    extended.directory standing⟩

/-- One insertion, of a directory where nothing is or of a file where nothing or a file is. -/
theorem insert (orderly : fs.Orderly) (enclosed : fs.get? above = some .directory)
    (plain : IsPlain name) (short : name.length ≤ nameLimit)
    (develops : Developed (fs.get? (name :: above)) (some object)) :
    Extends fs (fs.insert (name :: above) object) where
  orderly := orderly.insert enclosed plain short fun directory =>
    Option.some.inj (develops.directory directory)
  working := rfl
  developed := developed_insert develops

/-- A file that is replaced by another one. -/
theorem rewrite (orderly : fs.Orderly) {old content : List UInt8} {before mode : Nat}
    (found : fs.get? location = some (.file old before)) :
    Extends fs (fs.insert location (.file content mode)) := by
  cases location with
  | nil => cases found
  | cons name above =>
    obtain ⟨plain, short⟩ := orderly.holds found name List.mem_cons_self
    exact .insert orderly (orderly.get?_tail found) plain short (found ▸ .rewritten)

end Extends

/-! ### Accesses -/

theorem makeDirectory_extends (orderly : fs.Orderly) (created : fs.makeDirectory path = .ok made) :
    Extends fs made := by
  obtain ⟨_, _, _, _, _, _, _, directory, ordinary, missing, rfl⟩ := exists_of_makeDirectory created
  exact .insert orderly directory ordinary.isPlain ordinary.length_le (missing ▸ .made)

theorem settle_extends (orderly : fs.Orderly) {result : Except Failure FileSystem}
    (extended : ∀ after, result = .ok after → Extends fs after) :
    Extends fs (fs.settle path result).1 := by
  cases result with
  | ok after => exact extended after rfl
  | error => exact .refl orderly

theorem createDirectories_extends (orderly : fs.Orderly) (path : Path) :
    Extends fs (fs.createDirectories path).1 := by
  -- The recursion is on the ancestors: those above are made first, then the path itself.
  have all : ∀ paths : List Path, Extends fs (createDirectoriesFrom paths fs).1 := by
    intro paths
    induction paths with
    | nil => exact .refl orderly
    | cons path above ih =>
      unfold createDirectoriesFrom
      split
      · exact .refl orderly
      · split
        next =>
          split
          next created =>
            rw [created] at ih
            exact ih.trans (settle_extends ih.orderly fun _ => makeDirectory_extends ih.orderly)
          next => exact ih
        next => exact settle_extends orderly fun _ => makeDirectory_extends orderly
  exact all path.ancestors

theorem setMode_extends (orderly : fs.Orderly) {mode : Nat}
    (changed : fs.setMode path mode = .ok made) : Extends fs made := by
  obtain ⟨location, _, rest⟩ := bind_eq_ok_iff.1 changed
  obtain ⟨object, required, rest⟩ := bind_eq_ok_iff.1 rest
  have standing := require_eq_ok_iff.1 required
  split at rest
  next =>
    cases rest
    exact .rewrite orderly standing
  next =>
    cases rest
    exact .refl orderly

theorem ensureWritable_extends (orderly : fs.Orderly)
    (changed : fs.ensureWritable path = .ok made) : Extends fs made := by
  unfold ensureWritable at changed
  split at changed
  next =>
    cases changed
    exact .refl orderly
  next => cases changed
  next => exact setMode_extends orderly changed
  next =>
    cases changed
    exact .refl orderly

theorem copyMode_extends (orderly : fs.Orderly) {source : Path}
    (changed : fs.copyMode source path = .ok made) : Extends fs made := by
  obtain ⟨_, _, changed⟩ := bind_eq_ok_iff.1 changed
  exact setMode_extends orderly changed

theorem writeFile_extends (orderly : fs.Orderly) {content : List UInt8}
    (written : fs.writeFile path content = .ok made) : Extends fs made := by
  obtain ⟨_, location, _, _, _, found, writes⟩ := exists_of_writeFile written
  cases writes with
  | stream => exact .refl orderly
  | new missing =>
    -- Nothing is there, but the directory is in which it would be.
    obtain ⟨_, _, leads⟩ := locate_eq_ok_iff.1 found
    have existing : fs.get? (fs.origin path) ≠ none := by simp [orderly.get?_origin path]
    obtain ⟨name, above, rfl, enclosed, short⟩ :=
      leads.exists_of_missing orderly.get?_tail existing missing
    have plain := orderly.namesPlain.locate found name List.mem_cons_self
    exact .insert orderly enclosed plain short (missing ▸ .created)
  | replacing standing => exact .rewrite orderly standing

end TwinTree.FileSystem
