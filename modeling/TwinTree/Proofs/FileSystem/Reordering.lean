import TwinTree.Proofs.FileSystem.Evolution
import TwinTree.Proofs.FileSystem.Likeness
import TwinTree.Proofs.FileSystem.Resolution

/-!
# Listing orders

A file system may list the entries of its directories in another order and hold the same all the
same (`Reordered`). No access but listing sees the order: each gives the same answer in every order,
and changes what is held alike (`likeness_reordered`). What listing gives is the same entries in
another order (`Reordered.readDirectory`).
-/
namespace TwinTree.FileSystem

/-- The same objects at the same locations, perhaps listed in another order. -/
structure Reordered (fs other : FileSystem) : Prop where
  entries : other.entries.Perm fs.entries
  working : other.workingDirectory = fs.workingDirectory
  nodup : (fs.entries.map Prod.fst).Nodup

variable {fs other : FileSystem} {entries others : List (Location × Object)} {location : Location}
  {object : Object}

theorem find?_eq_of_perm (nodup : (entries.map Prod.fst).Nodup) (perm : others.Perm entries) :
    find? others location = find? entries location := by
  have nodup' : (others.map Prod.fst).Nodup := (perm.map _).nodup_iff.2 nodup
  cases found : find? entries location with
  | some object => exact find?_of_mem nodup' (perm.mem_iff.2 (mem_of_find? found))
  | none =>
    cases found' : find? others location with
    | none => rfl
    | some object =>
      rw [find?_of_mem nodup (perm.mem_iff.1 (mem_of_find? found'))] at found
      cases found

/-- Where an object is put does not matter but for the order. -/
theorem place_perm (nodup : (entries.map Prod.fst).Nodup) :
    (place entries location object).Perm
      ((location, object) :: entries.filter fun entry => entry.1 ≠ location) := by
  induction entries with
  | nil => exact .refl _
  | cons entry rest ih =>
    rw [List.map_cons, List.nodup_cons] at nodup
    rw [place]
    split
    next equal =>
      have others : (rest.filter fun entry => entry.1 ≠ location) = rest := by
        refine List.filter_eq_self.2 fun other member => decide_eq_true fun same => nodup.1 ?_
        rw [equal, ← same]
        exact List.mem_map_of_mem member
      rw [List.filter_cons_of_neg (by simpa using equal), others]
    next different =>
      rw [List.filter_cons_of_pos (by simpa using different)]
      exact ((ih nodup.2).cons _).trans (.swap ..)

namespace Reordered

variable {path : Path}

theorem insert (same : Reordered fs other) (location : Location) (object : Object) :
    Reordered (fs.insert location object) (other.insert location object) where
  entries := by
    have nodup' := (same.entries.map Prod.fst).nodup_iff.2 same.nodup
    exact (place_perm nodup').trans
      (((same.entries.filter _).cons _).trans (place_perm same.nodup).symm)
  working := same.working
  nodup := nodup_place same.nodup

section Same

variable (same : Reordered fs other)

include same

/-! ### Where paths lead -/

theorem get?_eq (location : Location) : other.get? location = fs.get? location := by
  cases location with
  | nil => rfl
  | cons => exact find?_eq_of_perm same.nodup same.entries

theorem origin (path : Path) : other.origin path = fs.origin path := by
  rw [FileSystem.origin, same.working]
  rfl

theorem resolve (followLast : Bool) (links : Nat) (segments : List Name) (here : Location) :
    other.resolve followLast links segments here = fs.resolve followLast links segments here :=
  resolve_congr fun seen _ => same.get?_eq seen

theorem locate (path : Path) (followLast : Bool) :
    other.locate path followLast = fs.locate path followLast := by
  rw [FileSystem.locate, same.resolve, same.origin]
  rfl

theorem locateParent (path : Path) : other.locateParent path = fs.locateParent path := by
  rw [FileSystem.locateParent, same.resolve, same.origin]
  rfl

/-! ### What paths show -/

theorem require (location : Location) : other.require location = fs.require location := by
  rw [FileSystem.require, same.get?_eq]
  rfl

theorem stat (path : Path) : other.stat path = fs.stat path := by
  rw [FileSystem.stat, same.locate]
  simp only [same.require]
  rfl

theorem lstat (path : Path) : other.lstat path = fs.lstat path := by
  rw [FileSystem.lstat, same.locate]
  simp only [same.require]
  rfl

theorem isDirectory (path : Path) : other.isDirectory path = fs.isDirectory path := by
  rw [FileSystem.isDirectory, same.stat]
  rfl

theorem readText (path : Path) : other.readText path = fs.readText path := by
  rw [FileSystem.readText, same.stat]
  rfl

theorem children (location : Location) :
    (other.children location).Perm (fs.children location) :=
  same.entries.filterMap _

/-- A directory lists the same entries, in another order. -/
theorem readDirectory (path : Path) :
    (∃ entries entries', fs.readDirectory path = .ok entries ∧
      other.readDirectory path = .ok entries' ∧ entries'.Perm entries) ∨
    ∃ failure, fs.readDirectory path = .error failure ∧
      other.readDirectory path = .error failure := by
  rw [FileSystem.readDirectory, FileSystem.readDirectory, same.locate]
  cases fs.locate path true with
  | error failure => exact .inr ⟨failure, rfl, rfl⟩
  | ok location =>
    simp only [bind, Except.bind, same.require]
    cases fs.require location with
    | error failure => exact .inr ⟨failure, rfl, rfl⟩
    | ok object =>
      cases object with
      | directory => exact .inl ⟨_, _, rfl, rfl, same.children location⟩
      | _ => exact .inr ⟨_, rfl, rfl⟩

/-! ### Checks -/

theorem absolutize (path : Path) : other.absolutize path = fs.absolutize path := by
  rw [FileSystem.absolutize, same.working]
  rfl

theorem canonicalize (path : Path) : other.canonicalize path = fs.canonicalize path := by
  rw [FileSystem.canonicalize, same.resolve, same.origin]
  simp only [same.require]
  rfl

theorem normalize (path : Path) : other.normalize path = fs.normalize path := by
  rw [FileSystem.normalize, same.canonicalize, same.absolutize]
  rfl

theorem nearest (whole : Path) (paths : List Path) (passed : List Name) :
    other.nearest whole paths passed = fs.nearest whole paths passed := by
  induction paths generalizing passed with
  | nil => rfl
  | cons path above ih =>
    rw [FileSystem.nearest, FileSystem.nearest, same.canonicalize]
    simp only [ih]

theorem overlaps (source destination : Path) :
    other.overlaps source destination = fs.overlaps source destination := by
  simp only [FileSystem.overlaps, normalizeMissing, same.normalize, same.nearest, same.absolutize]

theorem inspect (path : Path) (components : List Component) :
    other.inspect path components = fs.inspect path components := by
  induction components generalizing path with
  | nil => rfl
  | cons component rest ih =>
    rw [FileSystem.inspect, FileSystem.inspect, same.lstat]
    simp only [ih]

theorem checkSafe (item root : Path) : other.checkSafe item root = fs.checkSafe item root := by
  simp only [FileSystem.checkSafe, same.absolutize, same.inspect]

/-! ### Changes -/

theorem makeDirectory (path : Path) :
    Alongside Reordered (fs.makeDirectory path) (other.makeDirectory path) := by
  rw [FileSystem.makeDirectory, FileSystem.makeDirectory, same.locateParent]
  cases fs.locateParent path with
  | error => exact .error
  | ok found =>
    obtain ⟨above, last⟩ := found
    cases last with
    | none => exact .error
    | some last =>
      simp only [bind, Except.bind, same.get?_eq]
      split
      next => exact .error
      split
      next => exact .error
      cases fs.get? (last :: above) with
      | some => exact .error
      | none => exact .ok (same.insert _ _)

theorem settle {result result' : Except Failure FileSystem}
    (alongside : Alongside Reordered result result') (path : Path) :
    Reordered (fs.settle path result).1 (other.settle path result').1 ∧
      (other.settle path result').2 = (fs.settle path result).2 := by
  cases alongside with
  | ok made => exact ⟨made, rfl⟩
  | error =>
    refine ⟨same, ?_⟩
    rw [FileSystem.settle, FileSystem.settle, same.isDirectory]

theorem createDirectoriesFrom (paths : List Path) :
    Reordered (createDirectoriesFrom paths fs).1 (createDirectoriesFrom paths other).1 ∧
      (createDirectoriesFrom paths other).2 = (createDirectoriesFrom paths fs).2 := by
  induction paths with
  | nil => exact ⟨same, rfl⟩
  | cons path above ih =>
    rw [FileSystem.createDirectoriesFrom, FileSystem.createDirectoriesFrom]
    split
    next => exact ⟨same, rfl⟩
    have attempt := same.makeDirectory path
    generalize fs.makeDirectory path = result at attempt
    generalize other.makeDirectory path = result' at attempt
    cases attempt with
    | ok made => exact ⟨made, rfl⟩
    | @error failure =>
      cases failure with
      | notFound =>
        -- Only where the parent is missing are the paths above it made first.
        generalize FileSystem.createDirectoriesFrom above fs = higher at ih
        generalize FileSystem.createDirectoriesFrom above other = higher' at ih
        obtain ⟨made, outcome⟩ := higher
        obtain ⟨made', outcome'⟩ := higher'
        obtain ⟨later, rfl⟩ : Reordered made made' ∧ outcome' = outcome := ih
        cases outcome' with
        | error => exact ⟨later, rfl⟩
        | ok => exact later.settle (later.makeDirectory path) path
      | _ => exact same.settle .error path

theorem setMode (path : Path) (mode : Nat) :
    Alongside Reordered (fs.setMode path mode) (other.setMode path mode) := by
  rw [FileSystem.setMode, FileSystem.setMode, same.locate]
  cases fs.locate path true with
  | error => exact .error
  | ok location =>
    simp only [bind, Except.bind, same.require]
    cases fs.require location with
    | error => exact .error
    | ok object =>
      cases object with
      | file => exact .ok (same.insert _ _)
      | _ => exact .ok same

theorem ensureWritable (path : Path) :
    Alongside Reordered (fs.ensureWritable path) (other.ensureWritable path) := by
  rw [FileSystem.ensureWritable, FileSystem.ensureWritable, same.lstat]
  cases fs.lstat path with
  | error failure => cases failure <;> first | exact .ok same | exact .error
  | ok object =>
    cases object with
    | file => exact same.setMode path _
    | _ => exact .ok same

theorem writeFile (path : Path) (content : List UInt8) :
    Alongside Reordered (fs.writeFile path content) (other.writeFile path content) := by
  rw [FileSystem.writeFile, FileSystem.writeFile, same.locateParent]
  cases fs.locateParent path with
  | error => exact .error
  | ok found =>
    obtain ⟨above, last⟩ := found
    cases last with
    | none => exact .error
    | some last =>
      simp only [bind, Except.bind, same.locate, same.get?_eq]
      split
      next => exact .error
      cases fs.locate path true with
      | error => exact .error
      | ok location =>
        simp only
        cases fs.get? location with
        | none => exact .ok (same.insert _ _)
        | some object =>
          cases object with
          | file => exact .ok (same.insert _ _)
          | fifo | device => exact .ok same
          | _ => exact .error

theorem copyMode (source destination : Path) :
    Alongside Reordered (fs.copyMode source destination) (other.copyMode source destination) := by
  rw [FileSystem.copyMode, FileSystem.copyMode, same.stat]
  cases fs.stat source with
  | error => exact .error
  | ok object => exact same.setMode destination _

end Same

end Reordered

/-- No access but listing sees in which order directories list their entries. -/
theorem likeness_reordered : Likeness Reordered Eq where
  isRegular same path := by rw [same.stat]
  checkSafe same := same.checkSafe
  createDirectories same path := same.createDirectoriesFrom path.ancestors
  ensureWritable same := same.ensureWritable
  writeFile same path content _ := by
    rintro rfl
    exact same.writeFile path content
  copyMode same := same.copyMode

end TwinTree.FileSystem
