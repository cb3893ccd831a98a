import TwinTree.Path.Basic

/-!
# File systems

A file system assigns an object to each location and has a working directory. The order of the list
of objects is the order in which a directory lists its entries. `get?` is the view that every law is
stated through: two file systems hold the same things when `get?` agrees at every location.

Some things are left out. Each location has content of its own, so no file has two names, and the
mode of a file does not keep anyone from reading or writing it: an access fails only for what is
there, or is not. Opening a FIFO does not wait for whoever is at its other end, nothing comes out of
a FIFO or a device, and what is written to one is gone. Modes of objects other than files are not
kept.
-/
namespace TwinTree

/-- The names from the root down to an object, the innermost name first. -/
abbrev Location := List Name

namespace Location

def toPath (location : Location) : Path :=
  .ofSegments [] location.reverse true

end Location

inductive Object where
  | directory
  /-- A regular file and the twelve bits of its mode. -/
  | file (content : List UInt8) (mode : Nat)
  /-- A symbolic link and the text it holds. -/
  | link (target : List UInt8)
  | fifo
  | socket
  /-- A device, such as the one that swallows what is written to it. -/
  | device
  deriving DecidableEq, Repr, Inhabited

namespace Object

def isDirectory : Object → Bool
  | directory => true
  | _ => false

def isLink : Object → Bool
  | link _ => true
  | _ => false

def isRegular : Object → Bool
  | file _ _ => true
  | _ => false

/-- Whether what is written to the object goes on to a reader or to a device, and is not kept. -/
def isStream : Object → Bool
  | fifo | device => true
  | _ => false

/-- Only the modes of regular files are kept; other objects have the mode they are made with. -/
def mode : Object → Nat
  | file _ mode => mode
  | fifo => 0o644
  | device => 0o666
  | _ => 0o755

/-- Sets the mode where it is kept. -/
def withMode (mode : Nat) : Object → Object
  | file content _ => file content mode
  | object => object

end Object

structure FileSystem where
  entries : List (Location × Object)
  workingDirectory : Location
  deriving Inhabited

namespace FileSystem

/-- The object of the first entry for a location. -/
def find? : List (Location × Object) → Location → Option Object
  | [], _ => none
  | (location, object) :: rest, wanted =>
    if location = wanted then some object else find? rest wanted

/-- The object at a location. The root is a directory. -/
def get? (fs : FileSystem) : Location → Option Object
  | [] => some .directory
  | location => find? fs.entries location

/-- Puts an object in place of the one at a location, or at the end. -/
def place : List (Location × Object) → Location → Object → List (Location × Object)
  | [], wanted, object => [(wanted, object)]
  | (location, old) :: rest, wanted, object =>
    if location = wanted then (wanted, object) :: rest
    else (location, old) :: place rest wanted object

def insert (fs : FileSystem) (location : Location) (object : Object) : FileSystem :=
  { fs with entries := place fs.entries location object }

/-- The names directly beneath a location with their objects, in listing order. -/
def children (fs : FileSystem) (location : Location) : List (Name × Object) :=
  fs.entries.filterMap fun (inner, object) =>
    match inner with
    | name :: above => if above = location then some (name, object) else none
    | [] => none

/-- Every entry has a name that can be held, has one object, and lies in a directory. -/
structure WellFormed (fs : FileSystem) : Prop where
  nodup : (fs.entries.map Prod.fst).Nodup
  named : ∀ entry ∈ fs.entries, entry.1 ≠ []
  ordinary : ∀ entry ∈ fs.entries, ∀ name ∈ entry.1, IsOrdinary name
  enclosed : ∀ entry ∈ fs.entries, fs.get? entry.1.tail = some .directory
  working : fs.get? fs.workingDirectory = some .directory

instance (fs : FileSystem) : Decidable fs.WellFormed :=
  decidable_of_iff ((fs.entries.map Prod.fst).Nodup ∧ (∀ entry ∈ fs.entries, entry.1 ≠ []) ∧
      (∀ entry ∈ fs.entries, ∀ name ∈ entry.1, IsOrdinary name) ∧
      (∀ entry ∈ fs.entries, fs.get? entry.1.tail = some .directory) ∧
      fs.get? fs.workingDirectory = some .directory)
    ⟨fun ⟨nodup, named, ordinary, enclosed, working⟩ =>
      ⟨nodup, named, ordinary, enclosed, working⟩,
    fun ⟨nodup, named, ordinary, enclosed, working⟩ =>
      ⟨nodup, named, ordinary, enclosed, working⟩⟩

/-- Two file systems hold the same objects at the same locations. -/
def Agree (left right : FileSystem) : Prop := ∀ location, left.get? location = right.get? location

/-! ### The view after each change -/

@[simp]
theorem get?_root (fs : FileSystem) : fs.get? [] = some .directory := rfl

theorem find?_place_self (entries : List (Location × Object)) (location : Location)
    (object : Object) : find? (place entries location object) location = some object := by
  induction entries with
  | nil => simp [place, find?]
  | cons entry rest ih =>
    obtain ⟨found, old⟩ := entry
    by_cases equal : found = location <;> simp [place, find?, equal, ih]

theorem find?_place_of_ne (entries : List (Location × Object)) {location other : Location}
    (object : Object) (different : other ≠ location) :
    find? (place entries location object) other = find? entries other := by
  induction entries with
  | nil => simp [place, find?, different.symm]
  | cons entry rest ih =>
    obtain ⟨found, old⟩ := entry
    by_cases equal : found = location
    · simp [place, find?, equal, different.symm]
    · simp [place, find?, equal, ih]

theorem get?_insert_self (fs : FileSystem) {location : Location} (object : Object)
    (named : location ≠ []) : (fs.insert location object).get? location = some object := by
  cases location with
  | nil => contradiction
  | cons => exact find?_place_self ..

theorem get?_insert_of_ne (fs : FileSystem) {location other : Location} (object : Object)
    (different : other ≠ location) :
    (fs.insert location object).get? other = fs.get? other := by
  cases other with
  | nil => rfl
  | cons => exact find?_place_of_ne _ _ different

theorem mem_of_find? {entries : List (Location × Object)} {location : Location}
    {object : Object} (found : find? entries location = some object) :
    (location, object) ∈ entries := by
  induction entries with
  | nil => simp [find?] at found
  | cons entry rest ih =>
    by_cases equal : entry.1 = location
    · simp only [find?, equal, if_true, Option.some.injEq] at found
      simp [← equal, ← found]
    · simp only [find?, equal, if_false] at found
      exact List.mem_cons_of_mem _ (ih found)

theorem find?_of_mem {entries : List (Location × Object)} {location : Location}
    {object : Object} (nodup : (entries.map Prod.fst).Nodup)
    (member : (location, object) ∈ entries) : find? entries location = some object := by
  induction entries with
  | nil => simp at member
  | cons entry rest ih =>
    rw [List.map_cons, List.nodup_cons] at nodup
    rcases List.mem_cons.1 member with rfl | later
    · simp [find?]
    · have different : entry.1 ≠ location := fun equal =>
        nodup.1 (equal ▸ List.mem_map_of_mem later)
      simpa [find?, different] using ih nodup.2 later

/-- A listing shows what stands directly beneath a location. -/
theorem mem_children {fs : FileSystem} {location : Location} {name : Name} {object : Object} :
    (name, object) ∈ fs.children location ↔ (name :: location, object) ∈ fs.entries := by
  simp only [children, List.mem_filterMap]
  constructor
  · rintro ⟨⟨inner, found⟩, member, shown⟩
    cases inner with
    | nil => simp at shown
    | cons first above =>
      simp only [Option.ite_none_right_eq_some, Option.some.injEq, Prod.mk.injEq] at shown
      obtain ⟨rfl, rfl, rfl⟩ := shown
      exact member
  · exact fun member => ⟨_, member, by simp⟩

/-- Putting back what is there changes nothing. -/
theorem insert_of_get? {fs : FileSystem} {location : Location} {object : Object}
    (named : location ≠ []) (found : fs.get? location = some object) :
    fs.insert location object = fs := by
  have unchanged : ∀ entries, find? entries location = some object →
      place entries location object = entries := by
    intro entries found
    induction entries with
    | nil => cases found
    | cons entry rest ih =>
      obtain ⟨first, old⟩ := entry
      by_cases equal : first = location
      · simp only [find?, equal, if_true, Option.some.injEq] at found
        simp [place, equal, found]
      · simp only [find?, equal, if_false] at found
        simp [place, equal, ih found]
  cases location with
  | nil => contradiction
  | cons => rw [insert, unchanged _ found]

@[simp]
theorem workingDirectory_insert (fs : FileSystem) (location : Location) (object : Object) :
    (fs.insert location object).workingDirectory = fs.workingDirectory := rfl

end FileSystem

end TwinTree
