import TwinTree.Proofs.FileSystem.Prospect

/-!
# How a file system evolves

Making directories and writing files never takes anything away: what is missing may come to be a
directory or a file, a file may change what it holds, and all else stays (`Developed`). `Evolves`
says so of a whole file system, together with what may come to stand where; it is preserved from
change to change, and a way that leads somewhere still leads there afterwards (`Evolves.leads`).
-/
namespace TwinTree

/-- What an access may make of the object at a location. -/
inductive Developed : Option Object → Option Object → Prop where
  | same {object : Option Object} : Developed object object
  | made : Developed none (some .directory)
  | created {content : List UInt8} {mode : Nat} : Developed none (some (.file content mode))
  | rewritten {old new : List UInt8} {before after : Nat} :
      Developed (some (.file old before)) (some (.file new after))

/-- What stands in the place of a file that has been written: the file, unless something was there
that keeps nothing of what is written to it. -/
def Object.inPlaceOf (file : Object) : Option Object → Object
  | some .fifo => .fifo
  | some .device => .device
  | _ => file

/-- No file comes to stand in the place of a FIFO or a device. -/
theorem Object.inPlaceOf_of_isStream {object : Object} (file : Object)
    (stream : object.isStream = true) : file.inPlaceOf (some object) = object := by
  cases object with
  | fifo | device => rfl
  | _ => cases stream

/-- Either something keeps its place whatever is written, or the file takes it. -/
theorem Object.inPlaceOf_cases (old : Option Object) :
    (∃ object, old = some object ∧ object.isStream = true) ∨
      ∀ file : Object, file.inPlaceOf old = file := by
  cases old with
  | none => exact .inr fun _ => rfl
  | some object =>
    cases object with
    | fifo | device => exact .inl ⟨_, rfl, rfl⟩
    | _ => exact .inr fun _ => rfl

theorem Object.withMode_inPlaceOf (file : Object) (old : Option Object) (mode : Nat) :
    (file.inPlaceOf old).withMode mode = (file.withMode mode).inPlaceOf old := by
  unfold inPlaceOf
  split <;> rfl

theorem Object.isDirectory_inPlaceOf {file : Object} (noDirectory : file.isDirectory = false)
    (old : Option Object) : (file.inPlaceOf old).isDirectory = false := by
  unfold inPlaceOf
  split <;> first | rfl | exact noDirectory

theorem Object.isLink_inPlaceOf {file : Object} (noLink : file.isLink = false)
    (old : Option Object) : (file.inPlaceOf old).isLink = false := by
  unfold inPlaceOf
  split <;> first | rfl | exact noLink

namespace Developed

variable {before middle after : Option Object}

theorem trans (first : Developed before middle) (second : Developed middle after) :
    Developed before after := by
  cases first with
  | same => exact second
  | made => cases second; exact .made
  | created =>
    cases second with
    | same => exact .created
    | rewritten => exact .created
  | rewritten =>
    cases second with
    | same => exact .rewritten
    | rewritten => exact .rewritten

theorem directory (developed : Developed before after) (directory : before = some .directory) :
    after = some .directory := by
  subst directory
  cases developed
  rfl

theorem missing (developed : Developed before after) (missing : after = none) : before = none := by
  subst missing
  cases developed
  rfl

/-- Nothing becomes a FIFO or a device, and each of them stays. -/
theorem inPlaceOf_eq (developed : Developed before after) (file : Object) :
    file.inPlaceOf after = file.inPlaceOf before := by
  cases developed <;> rfl

theorem link_iff (developed : Developed before after) {target : List UInt8} :
    before = some (.link target) ↔ after = some (.link target) := by
  cases developed <;> simp

/-- Anything but a link stays something that is not a link. -/
theorem exists_of_not_isLink (developed : Developed before after) {object : Object}
    (found : before = some object) (plain : object.isLink = false) :
    ∃ object, after = some object ∧ object.isLink = false := by
  subst found
  cases developed with
  | same => exact ⟨object, rfl, plain⟩
  | rewritten => exact ⟨_, rfl, rfl⟩

/-- What came to be a directory was one, or was missing. -/
theorem of_directory (developed : Developed before after) (directory : after = some .directory) :
    before = some .directory ∨ before = none := by
  subst directory
  cases developed with
  | same => exact .inl rfl
  | made => exact .inr rfl

/-- Where something has been written, something was there that can be written to, or nothing. -/
theorem of_written {content : List UInt8} {mode : Nat} {old : Option Object}
    (developed : Developed before after)
    (written : after = some ((Object.file content mode).inPlaceOf old)) :
    before = none ∨
      ∃ former mode old, before = some ((Object.file former mode).inPlaceOf old) := by
  cases developed with
  | same => exact .inr ⟨content, mode, old, written⟩
  | made | created => exact .inl rfl
  | rewritten => exact .inr ⟨_, _, none, rfl⟩

/-- What is written to may be written to again. -/
theorem refilled {old new : List UInt8} {before after : Nat} (former : Option Object) :
    Developed (some ((Object.file old before).inPlaceOf former))
      (some ((Object.file new after).inPlaceOf former)) := by
  unfold Object.inPlaceOf
  split
  next => exact .same
  next => exact .same
  next => exact .rewritten

end Developed

namespace FileSystem

variable {fs before middle after : FileSystem} {name : Name} {above location : Location}
  {object : Object}

/-! ### Insertion -/

theorem mem_place {entries : List (Location × Object)} {entry : Location × Object}
    (member : entry ∈ place entries location object) :
    entry = (location, object) ∨ entry ∈ entries := by
  induction entries with
  | nil => exact .inl (by simpa [place] using member)
  | cons first rest ih =>
    rw [place] at member
    split at member
    · rcases List.mem_cons.1 member with equal | later
      · exact .inl equal
      · exact .inr (List.mem_cons_of_mem _ later)
    · rcases List.mem_cons.1 member with equal | later
      · exact .inr (equal ▸ List.mem_cons_self)
      · exact (ih later).imp_right (List.mem_cons_of_mem _)

theorem nodup_place {entries : List (Location × Object)}
    (nodup : (entries.map Prod.fst).Nodup) :
    ((place entries location object).map Prod.fst).Nodup := by
  induction entries with
  | nil => simp [place]
  | cons first rest ih =>
    rw [List.map_cons, List.nodup_cons] at nodup
    rw [place]
    split
    next equal => simpa [← equal] using nodup
    next different =>
      rw [List.map_cons, List.nodup_cons]
      -- The first location could come up again only as the one that is placed, or as an old one.
      refine ⟨fun member => ?_, ih nodup.2⟩
      obtain ⟨entry, within, key⟩ := List.mem_map.1 member
      rcases mem_place within with rfl | old
      · exact different key.symm
      · exact nodup.1 (key ▸ List.mem_map_of_mem old)

/-- Nothing that was a directory is one no longer. -/
theorem get?_insert_directory (named : location ≠ [])
    (kept : fs.get? location = some .directory → object = .directory) {other : Location}
    (directory : fs.get? other = some .directory) :
    (fs.insert location object).get? other = some .directory := by
  by_cases equal : other = location
  · subst equal
    rw [get?_insert_self fs object named, kept directory]
  · rw [get?_insert_of_ne fs object equal, directory]

/-- What holds of an object that is put somewhere and of all entries still holds of all. -/
theorem forall_mem_insert {property : Location × Object → Prop}
    (added : property (location, object)) (old : ∀ entry ∈ fs.entries, property entry) :
    ∀ entry ∈ (fs.insert location object).entries, property entry := by
  intro entry member
  rcases mem_place member with rfl | before
  · exact added
  · exact old entry before

theorem Orderly.insert (orderly : fs.Orderly) (enclosed : fs.get? above = some .directory)
    (plain : IsPlain name) (short : name.length ≤ nameLimit)
    (kept : fs.get? (name :: above) = some .directory → object = .directory) :
    (fs.insert (name :: above) object).Orderly where
  nodup := nodup_place orderly.nodup
  named := forall_mem_insert (by simp) orderly.named
  fitting := forall_mem_insert (List.forall_mem_cons.2 ⟨⟨plain, short⟩, orderly.holds enclosed⟩)
    orderly.fitting
  enclosed := forall_mem_insert (get?_insert_directory (by simp) kept enclosed)
    fun entry member => get?_insert_directory (by simp) kept (orderly.enclosed entry member)
  working := get?_insert_directory (by simp) kept orderly.working

theorem WellFormed.insert (wellFormed : fs.WellFormed)
    (enclosed : fs.get? above = some .directory) (ordinary : IsOrdinary name)
    (kept : fs.get? (name :: above) = some .directory → object = .directory) :
    (fs.insert (name :: above) object).WellFormed :=
  have inserted := wellFormed.orderly.insert enclosed ordinary.isPlain ordinary.length_le kept
  { inserted with
    ordinary := forall_mem_insert
      (List.forall_mem_cons.2 ⟨ordinary, wellFormed.isOrdinary enclosed⟩) wellFormed.ordinary }

/-- Only the listing of the directory that an object stands in shows it. -/
theorem children_insert {directory : Location} (elsewhere : above ≠ directory) :
    (fs.insert (name :: above) object).children directory = fs.children directory := by
  obtain ⟨entries, working⟩ := fs
  simp only [children, FileSystem.insert]
  -- The entries before the one that is replaced stay, and that one is in another directory.
  induction entries with
  | nil => simp [place, elsewhere]
  | cons entry rest ih =>
    rw [place]
    split
    next equal =>
      obtain ⟨found, old⟩ := entry
      obtain rfl : found = name :: above := equal
      simp [elsewhere]
    next => rw [List.filterMap_cons, List.filterMap_cons, ih]

/-- Nothing else is another object afterwards. -/
theorem developed_insert (develops : Developed (fs.get? location) (some object))
    (other : Location) : Developed (fs.get? other) ((fs.insert location object).get? other) := by
  by_cases equal : other = location
  · subst equal
    by_cases root : other = []
    · subst root
      exact .same
    · rw [get?_insert_self fs object root]
      exact develops
  · rw [get?_insert_of_ne fs object equal]
    exact .same

/-- A way that leads somewhere leads there still. -/
theorem Leads.develop {links left : Nat} {segments : List Name} {here there : Location}
    (developed : ∀ location, Developed (before.get? location) (after.get? location))
    (leads : Leads before links segments here left there) :
    Leads after links segments here left there := by
  induction leads with
  | done => exact .done
  | stay directory _ ih => exact .stay ((developed _).directory directory) ih
  | up directory _ ih => exact .up ((developed _).directory directory) ih
  | enter directory notDot notUp short found plain _ ih =>
    -- It may have been rewritten, but what is no link does not become one.
    obtain ⟨object, later, plain⟩ := (developed _).exists_of_not_isLink found plain
    exact .enter ((developed _).directory directory) notDot notUp short later plain ih
  | follow directory notDot notUp short found _ ih =>
    exact .follow ((developed _).directory directory) notDot notUp short
      ((developed _).link_iff.1 found) ih
  | @vacant _ segment here directory notDot notUp short missing =>
    cases found : after.get? (segment :: here) with
    | none => exact .vacant ((developed _).directory directory) notDot notUp short found
    | some object =>
      -- What has come to stand at the end of the way is a directory or a file.
      have plain : object.isLink = false := by
        have grown := developed (segment :: here)
        rw [missing, found] at grown
        cases grown <;> rfl
      exact .enter ((developed _).directory directory) notDot notUp short found plain .done

/-! ### Evolution -/

/-- One file system evolves into another in which nothing is lost and only what is permitted has
come to stand anywhere. -/
structure Evolves (permitted : Location → Object → Prop) (before after : FileSystem) : Prop where
  wellFormed : after.WellFormed
  working : after.workingDirectory = before.workingDirectory
  developed : ∀ location, Developed (before.get? location) (after.get? location)
  changed : ∀ location, after.get? location = before.get? location ∨
    ∃ object, after.get? location = some object ∧ permitted location object
  children_eq : ∀ directory, (∀ name object, ¬ permitted (name :: directory) object) →
    after.children directory = before.children directory

namespace Evolves

variable {permitted allowed : Location → Object → Prop}

theorem refl (wellFormed : fs.WellFormed) : Evolves permitted fs fs :=
  ⟨wellFormed, rfl, fun _ => .same, fun _ => .inl rfl, fun _ _ => rfl⟩

theorem trans (first : Evolves permitted before middle) (second : Evolves permitted middle after) :
    Evolves permitted before after where
  wellFormed := second.wellFormed
  working := second.working.trans first.working
  developed location := (first.developed location).trans (second.developed location)
  changed location := by
    rcases second.changed location with same | changed
    · rw [same]
      exact first.changed location
    · exact .inr changed
  children_eq directory untouched :=
    (second.children_eq directory untouched).trans (first.children_eq directory untouched)

theorem mono (evolves : Evolves permitted before after)
    (weaker : ∀ location object, permitted location object → allowed location object) :
    Evolves allowed before after where
  wellFormed := evolves.wellFormed
  working := evolves.working
  developed := evolves.developed
  changed location := (evolves.changed location).imp_right
    fun ⟨object, found, granted⟩ => ⟨object, found, weaker location object granted⟩
  children_eq directory untouched := evolves.children_eq directory
    fun name object granted => untouched name object (weaker _ object granted)

/-- One insertion, of a directory where nothing is or of a file where nothing or a file is. -/
theorem insert (wellFormed : fs.WellFormed) (enclosed : fs.get? above = some .directory)
    (ordinary : IsOrdinary name)
    (develops : Developed (fs.get? (name :: above)) (some object))
    (granted : permitted (name :: above) object) :
    Evolves permitted fs (fs.insert (name :: above) object) where
  wellFormed := wellFormed.insert enclosed ordinary fun directory =>
    Option.some.inj (develops.directory directory)
  working := rfl
  developed := developed_insert develops
  changed location := by
    by_cases equal : location = name :: above
    · rw [equal, get?_insert_self fs object (by simp)]
      exact .inr ⟨object, rfl, granted⟩
    · exact .inl (get?_insert_of_ne fs object equal)
  children_eq directory untouched :=
    children_insert fun equal => untouched name object (equal ▸ granted)

theorem sameLinks (evolves : Evolves permitted before after) : SameLinks before after :=
  fun location _ => (evolves.developed location).link_iff

theorem origin_eq (evolves : Evolves permitted before after) (path : Path) :
    after.origin path = before.origin path := by
  rw [origin, origin, evolves.working]

theorem prospect_eq (evolves : Evolves permitted before after) (path : Path) :
    after.prospect path = before.prospect path :=
  (prospect_congr evolves.sameLinks evolves.working.symm path).symm

theorem directory (evolves : Evolves permitted before after)
    (found : before.get? location = some .directory) : after.get? location = some .directory :=
  (evolves.developed location).directory found

/-- What is not permitted to change has not changed. -/
theorem get?_eq (evolves : Evolves permitted before after)
    (untouched : ∀ object, after.get? location = some object → ¬ permitted location object) :
    after.get? location = before.get? location := by
  rcases evolves.changed location with same | ⟨object, found, granted⟩
  · exact same
  · exact absurd granted (untouched object found)

theorem leads (evolves : Evolves permitted before after) {links left : Nat} {segments : List Name}
    {here there : Location} (leads : Leads before links segments here left there) :
    Leads after links segments here left there :=
  leads.develop evolves.developed

/-- What comes to stand somewhere on the way to a file system, and could become what stands there in
the end, is still on the way. -/
theorem catch_up (evolves : Evolves permitted before after)
    (changes : Evolves allowed before middle)
    (fits : ∀ location object, middle.get? location = some object → allowed location object →
      Developed (some object) (after.get? location)) :
    Evolves (fun _ _ => True) middle after where
  wellFormed := evolves.wellFormed
  working := evolves.working.trans changes.working.symm
  developed location := by
    rcases changes.changed location with same | ⟨object, found, granted⟩
    · rw [same]
      exact evolves.developed location
    · rw [found]
      exact fits location object found granted
  changed location := by
    cases found : after.get? location with
    | some object => exact .inr ⟨object, rfl, trivial⟩
    | none =>
      rcases changes.changed location with same | ⟨object, standing, granted⟩
      · rw [same, (evolves.developed location).missing found]
        exact .inl rfl
      · cases found ▸ fits location object standing granted
  children_eq _ untouched := absurd trivial (untouched [] .directory)

end Evolves

end FileSystem

end TwinTree
