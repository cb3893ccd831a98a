import TwinTree.Proofs.Destination.Safety
import TwinTree.Proofs.Pass.Reasoning
import TwinTree.Proofs.Placement

/-!
# What every state of a pass satisfies

`Sound` is the invariant of a walk: the file system has evolved within the twin, the root of the
twin is there, and every directory known to exist does, at the place that its names give. Each
operation of a pass keeps it, whether it succeeds or not, and says what it has changed besides.
-/
namespace TwinTree

open FileSystem

namespace Task

/-- Where the source is. -/
def home (task : Task) (before : FileSystem) : Location := before.prospect task.source

/-- Where the root of the twin is going to be. -/
def root (task : Task) (before : FileSystem) : Location := before.prospect task.twin

/-- Where names lead in the source. -/
def stand (task : Task) (before : FileSystem) (names : List Name) : Location :=
  names.reverse ++ task.home before

/-- Where names lead in the twin. -/
def place (task : Task) (before : FileSystem) (names : List Name) : Location :=
  names.reverse ++ task.root before

/-- The names of a source file in the twin. -/
def renamed (task : Task) (names : List Name) (name : Name) : List Name :=
  names ++ [Placement.fileName task.options.renamings name]

theorem stand_append_singleton (task : Task) (before : FileSystem) (names : List Name)
    (name : Name) : task.stand before (names ++ [name]) = name :: task.stand before names := by
  simp [stand]

theorem place_renamed (task : Task) (before : FileSystem) (names : List Name) (name : Name) :
    task.place before (task.renamed names name) =
      Placement.fileName task.options.renamings name :: task.place before names := by
  simp [place, renamed]

end Task

/-- What the file of the twin that belongs to a source file may hold: what it held at the start, or
an adapted text, which is that of the source file unless a link may have led elsewhere. -/
inductive Task.Fills (task : Task) (before : FileSystem) (names : List Name) (name : Name)
    (source : Object) : List UInt8 → Prop where
  | kept {content : List UInt8} :
      before.HoldsAt (task.place before (task.renamed names name)) content →
      Task.Fills task before names name source content
  | adapted {directory : Path} {text : List Char} : Path.Beneath directory task.source names →
      (∀ raw mode, source = .file raw mode → Utf8.decode? raw = some text) →
      Task.Fills task before names name source
        (Utf8.encode (adapt task.rules (task.policy directory) text))

/-- What a pass may make: directories down to the root of the twin, and beneath it what stands at
the same place in the source, the names of files changed. -/
inductive Mirrored (task : Task) (before : FileSystem) : Location → Object → Prop where
  | above {location : Location} : location <:+ task.root before →
      Mirrored task before location .directory
  | directory {names : List Name} : before.get? (task.stand before names) = some .directory →
      Mirrored task before (task.place before names) .directory
  | file {names : List Name} {name : Name} {source : Object} {content : List UInt8} {mode : Nat} :
      before.get? (task.stand before (names ++ [name])) = some source →
      source.isDirectory = false → task.Fills before names name source content →
      Mirrored task before (task.place before (task.renamed names name)) (.file content mode)

/-- What a walk takes for granted about its task and the file system it starts on. -/
structure Grounded (task : Task) (before : FileSystem) : Prop where
  wellFormed : before.WellFormed
  anchored : before.Anchored task.twin
  replaced : PlainRenamings task.options.renamings
  source : before.get? (task.home before) = some .directory
  leads : ∃ left, Leads before linkLimit task.source.names (before.origin task.source) left
    (task.home before)
  apart : task.options.dryRun = false →
    ¬ task.home before <:+ task.root before ∧ ¬ task.root before <:+ task.home before

/-- The invariant of a walk that started on the file system `before`. -/
structure Sound (task : Task) (before : FileSystem) (state : State) : Prop where
  evolves : Evolves (Mirrored task before) before state.fileSystem
  rehearsed : task.options.dryRun = true → state.fileSystem = before
  root : task.options.dryRun = false →
    state.fileSystem.get? (task.root before) = some .directory ∧
      ∃ left, Leads state.fileSystem linkLimit task.twin.names
        (state.fileSystem.origin task.twin) left (task.root before)
  known : task.options.dryRun = false → ∀ path ∈ state.materialized, ∀ names,
    Path.Beneath path task.twin names →
      state.fileSystem.get? (task.place before names) = some .directory

variable {task : Task} {before : FileSystem} {state after : State} {names : List Name}
  {path directory : Path} {name : Name} {location : Location} {object : Object}

/-- The text of a file is the one that its content stands for. -/
theorem FileSystem.decode?_of_readText {fs : FileSystem} {raw : List UInt8} {mode : Nat}
    {text : List Char} (shown : fs.stat path = .ok (.file raw mode))
    (read : fs.readText path = .ok text) : Utf8.decode? raw = some text := by
  obtain ⟨object, found, rest⟩ := bind_eq_ok_iff.1 read
  cases shown.symm.trans found
  cases decoded : Utf8.decode? raw with
  | none =>
    simp only [decoded] at rest
    cases rest
  | some other =>
    simp only [decoded] at rest
    cases rest
    rfl

/-- What may be made of a file may be made with any mode. -/
theorem Mirrored.withMode {content : List UInt8} {old mode : Nat}
    (mirrored : Mirrored task before location (.file content old)) :
    Mirrored task before location (.file content mode) := by
  cases mirrored with
  | file standing noDirectory fills => exact .file standing noDirectory fills

/-- What mirrors something at the root of the twin or outside of it is a directory on the way to
it. -/
theorem Mirrored.eq_directory (mirrored : Mirrored task before location object)
    (outside : ¬ task.root before <:+ location ∨ location = task.root before) :
    location <:+ task.root before ∧ object = .directory := by
  cases mirrored with
  | above higher => exact ⟨higher, rfl⟩
  | directory =>
    rcases outside with apart | same
    · exact absurd (List.suffix_append ..) apart
    · exact ⟨same ▸ List.suffix_refl _, rfl⟩
  | @file names name =>
    rcases outside with apart | same
    · exact absurd (List.suffix_append ..) apart
    · -- A file has a name beneath the root, so it does not stand at the root.
      have longer := congrArg List.length same
      simp only [Task.place, Task.renamed, List.length_append, List.length_reverse,
        List.length_singleton] at longer
      omega

namespace Grounded

theorem mirrored_of_madeDownTo (grounded : Grounded task before)
    (standing : before.get? (task.stand before names) = some .directory)
    (made : MadeDownTo (task.place before names) location object) :
    Mirrored task before location object := by
  obtain ⟨above, rfl⟩ := made
  rcases List.suffix_or_suffix_of_suffix above
    (List.suffix_append names.reverse (task.root before)) with higher | ⟨front, rfl⟩
  · exact .above higher
  · obtain ⟨rest, split⟩ := List.suffix_append_self_iff.1 above
    have higher : before.get? (task.stand before front.reverse) = some .directory := by
      rw [Task.stand, ← split, List.append_assoc] at standing
      rw [Task.stand, List.reverse_reverse]
      exact grounded.wellFormed.directory_of_append standing
    have found := Mirrored.directory higher
    rwa [Task.place, List.reverse_reverse] at found

/-- Nothing in the source is made by a real pass. -/
theorem not_mirrored (grounded : Grounded task before) (real : task.options.dryRun = false)
    (inside : task.home before <:+ location) : ¬ Mirrored task before location object := by
  obtain ⟨notAbove, notBelow⟩ := grounded.apart real
  have apart : ¬ task.root before <:+ location := fun within =>
    (List.suffix_or_suffix_of_suffix inside within).elim notAbove notBelow
  intro mirrored
  cases mirrored with
  | above higher => exact notAbove (inside.trans higher)
  | directory => exact apart (List.suffix_append ..)
  | file => exact apart (List.suffix_append ..)

/-- A directory of the source is where its names lead. -/
theorem leads_stand (grounded : Grounded task before)
    (beneath : Path.Beneath directory task.source names)
    (standing : before.get? (task.stand before names) = some .directory) :
    ∃ left, Leads before linkLimit directory.names (before.origin directory) left
      (task.stand before names) := by
  obtain ⟨left, leads⟩ := grounded.leads
  exact ⟨left, leads.beneath grounded.wellFormed beneath standing⟩

end Grounded

namespace Sound

theorem wellFormed (sound : Sound task before state) : state.fileSystem.WellFormed :=
  sound.evolves.wellFormed

/-- Only the file system and the known directories matter. -/
theorem congr (sound : Sound task before state) (sameFiles : after.fileSystem = state.fileSystem)
    (sameKnown : after.materialized = state.materialized) : Sound task before after where
  evolves := sameFiles ▸ sound.evolves
  rehearsed dry := sameFiles.trans (sound.rehearsed dry)
  root real := sameFiles ▸ sound.root real
  known real := by
    rw [sameFiles, sameKnown]
    exact sound.known real

theorem evolve (sound : Sound task before state) (real : task.options.dryRun = false)
    (evolves : Evolves (Mirrored task before) state.fileSystem after.fileSystem)
    (sameKnown : after.materialized = state.materialized) : Sound task before after where
  evolves := sound.evolves.trans evolves
  rehearsed dry := by
    rw [real] at dry
    cases dry
  root _ := by
    obtain ⟨directory, left, leads⟩ := sound.root real
    refine ⟨evolves.directory directory, left, ?_⟩
    rw [evolves.origin_eq]
    exact evolves.leads leads
  known _ path member names beneath := by
    rw [sameKnown] at member
    exact evolves.directory (sound.known real path member names beneath)

/-- Writing what a copy is to hold keeps the invariant. -/
theorem fill {made : FileSystem} {content : List UInt8} (sound : Sound task before state)
    (real : task.options.dryRun = false)
    (standing : before.get? (task.stand before (names ++ [name])) = some object)
    (noDirectory : object.isDirectory = false)
    (fills : task.Fills before names name object content)
    (filled : Evolves (WrittenAt (task.place before (task.renamed names name)) (· = content))
      state.fileSystem made) :
    Sound task before { state with fileSystem := made } := by
  refine sound.evolve real (filled.mono ?_) rfl
  rintro _ _ ⟨rfl⟩
  exact .file standing noDirectory fills

/-- Another directory becomes known. -/
theorem know (sound : Sound task before state) (sameFiles : after.fileSystem = state.fileSystem)
    (known : after.materialized = state.materialized ++ [path])
    (there : task.options.dryRun = false → ∀ names, Path.Beneath path task.twin names →
      state.fileSystem.get? (task.place before names) = some .directory) :
    Sound task before after where
  evolves := sameFiles ▸ sound.evolves
  rehearsed dry := sameFiles.trans (sound.rehearsed dry)
  root real := sameFiles ▸ sound.root real
  known real := by
    rw [sameFiles, known]
    intro other member
    rcases List.mem_append.1 member with old | new
    · exact sound.known real other old
    · rw [List.mem_singleton.1 new]
      exact there real

/-- A place in the twin climbs from nowhere but where its root does. -/
theorem anchored (sound : Sound task before state) (grounded : Grounded task before)
    (beneath : Path.Beneath path task.twin names) : state.fileSystem.Anchored path :=
  (grounded.anchored.evolve sound.evolves).beneath beneath

/-- A place that passed the check is where its names say. -/
theorem prospect_eq (sound : Sound task before state) (real : task.options.dryRun = false)
    (beneath : Path.Beneath path task.twin names)
    (safe : state.fileSystem.checkSafe path task.twin = .ok ()) :
    state.fileSystem.prospect path = task.place before names := by
  obtain ⟨directory, left, leads⟩ := sound.root real
  exact prospect_of_clear leads beneath
    (clear_of_checkSafe sound.wellFormed beneath directory leads safe)

/-- The source stays as it was. -/
theorem get?_eq (sound : Sound task before state) (grounded : Grounded task before)
    (inside : task.home before <:+ location) :
    state.fileSystem.get? location = before.get? location := by
  cases dry : task.options.dryRun with
  | true => rw [sound.rehearsed dry]
  | false => exact sound.evolves.get?_eq fun _ _ => grounded.not_mirrored dry inside

/-- What a file at its place in the twin holds may be there with any mode. -/
theorem mirrored_of_holdsAt (sound : Sound task before state)
    (standing : before.get? (task.stand before (names ++ [name])) = some object)
    (noDirectory : object.isDirectory = false) {content : List UInt8} {mode : Nat}
    (holds : state.fileSystem.HoldsAt (task.place before (task.renamed names name)) content) :
    Mirrored task before (task.place before (task.renamed names name)) (.file content mode) := by
  obtain ⟨old, held⟩ := holds
  rcases sound.evolves.changed (task.place before (task.renamed names name)) with
    same | ⟨made, found, mirrored⟩
  · exact .file standing noDirectory (.kept ⟨old, same.symm.trans held⟩)
  · cases held.symm.trans found
    exact mirrored.withMode

theorem children_eq (sound : Sound task before state) (grounded : Grounded task before)
    (inside : task.home before <:+ location) :
    state.fileSystem.children location = before.children location := by
  cases dry : task.options.dryRun with
  | true => rw [sound.rehearsed dry]
  | false =>
    refine sound.evolves.children_eq location fun name object => ?_
    exact grounded.not_mirrored dry (inside.trans (List.suffix_cons name location))

theorem leads_stand (sound : Sound task before state) (grounded : Grounded task before)
    (beneath : Path.Beneath directory task.source names)
    (standing : before.get? (task.stand before names) = some .directory) :
    ∃ left, Leads before linkLimit directory.names (before.origin directory) left
        (task.stand before names) ∧
      Leads state.fileSystem linkLimit directory.names (state.fileSystem.origin directory) left
        (task.stand before names) := by
  obtain ⟨left, leads⟩ := grounded.leads_stand beneath standing
  refine ⟨left, leads, ?_⟩
  rw [sound.evolves.origin_eq]
  exact sound.evolves.leads leads

/-- The text that is read from a file of the source is the one it held at the start. -/
theorem decode?_of_readText {raw : List UInt8} {mode : Nat} {text : List Char}
    (sound : Sound task before state) (grounded : Grounded task before)
    (beneath : Path.Beneath directory task.source names)
    (standing : before.get? (name :: task.stand before names) = some (.file raw mode))
    (read : state.fileSystem.readText (directory.join ⟨name⟩) = .ok text) :
    Utf8.decode? raw = some text := by
  have inside : task.home before <:+ name :: task.stand before names :=
    (List.suffix_append ..).trans (List.suffix_cons ..)
  obtain ⟨left, _, leads⟩ :=
    sound.leads_stand grounded beneath (grounded.wellFormed.get?_tail standing)
  obtain ⟨object, shown, _⟩ := bind_eq_ok_iff.1 read
  rw [← sound.get?_eq grounded inside] at standing
  -- The entry is no link, so the path shows what stands at its own place.
  cases get?_of_stat sound.wellFormed leads standing rfl shown
  exact FileSystem.decode?_of_readText shown read

end Sound

namespace Pass

variable {β : Type} {goal : β → State → Prop} {failed : State → Prop}

/-- What an operation leaves as it was, besides changing files as permitted. -/
structure Kept (task : Task) (before : FileSystem) (permitted : Location → Object → Prop)
    (state after : State) : Prop where
  sound : Sound task before after
  evolves : Evolves permitted state.fileSystem after.fileSystem
  records : after.journal.report.records = state.journal.report.records

theorem Kept.refl {permitted : Location → Object → Prop} (sound : Sound task before state) :
    Kept task before permitted state state :=
  ⟨sound, .refl sound.wellFormed, rfl⟩

theorem meets_isMaterialized_bind {next : Bool → Pass β}
    (onward : Meets (next (state.materialized.any fun known => decide (known.Same path))) state
      goal failed) :
    Meets (isMaterialized path >>= next) state goal failed := onward

theorem meets_requireSafe {post : Unit → State → Prop}
    (safe : state.fileSystem.checkSafe path task.twin = .ok () → post () state)
    (refused : failed state) : Meets (requireSafe task path) state post failed := by
  unfold requireSafe
  refine meets_fileSystem_bind ?_
  cases checked : state.fileSystem.checkSafe path task.twin with
  | ok => exact safe checked
  | error escape => exact refused

theorem meets_requireSafe_bind {next : Unit → Pass β}
    (onward : state.fileSystem.checkSafe path task.twin = .ok () →
      Meets (next ()) state goal failed)
    (refused : failed state) : Meets (requireSafe task path >>= next) state goal failed := by
  have required : Meets (requireSafe task path) state
      (fun value after => Meets (next value) after goal failed) failed :=
    meets_requireSafe onward refused
  exact required.bind fun _ _ => id

/-- A directory that is not known yet is made, and known from then on. -/
theorem meets_ensureDirectory {post : Bool → State → Prop}
    (unknown : (state.materialized.any fun known => decide (known.Same path)) = false)
    (made : (state.fileSystem.createDirectories path).2 = .ok () → post true
      { state with
        fileSystem := (state.fileSystem.createDirectories path).1
        materialized := state.materialized ++ [path] })
    (refused : failed { state with
      fileSystem := (state.fileSystem.createDirectories path).1 }) :
    Meets (ensureDirectory path) state post failed := by
  unfold ensureDirectory
  refine meets_isMaterialized_bind ?_
  rw [unknown, if_neg (by decide)]
  refine meets_fileSystem_bind ?_
  cases created : state.fileSystem.createDirectories path with
  | mk changed outcome =>
    rw [created] at made refused
    refine meets_modify_bind ?_
    cases outcome with
    | error failure => exact refused
    | ok => exact made rfl

/-- A directory of the twin is accounted for: in a real pass it is there afterwards. -/
theorem materialize_meets (grounded : Grounded task before) (sound : Sound task before state)
    (standing : before.get? (task.stand before names) = some .directory)
    (beneath : Path.Beneath path task.twin names) :
    Meets (materialize task path) state
      (fun _ after => Kept task before (MadeDownTo (task.place before names)) state after ∧
        (task.options.dryRun = false →
          after.fileSystem.get? (task.place before names) = some .directory))
      (Sound task before) := by
  unfold materialize
  refine meets_isMaterialized_bind ?_
  split
  next found =>
    obtain ⟨known, member, same⟩ := List.any_eq_true.1 found
    have same : known.Same path := by simpa using same
    -- A known directory has the components of this one, and so its names.
    have alike : Path.Beneath known task.twin names :=
      ⟨beneath.plain, same.trans beneath.components_eq⟩
    exact meets_pure ⟨.refl sound, fun real => sound.known real known member names alike⟩
  next unknown =>
    refine meets_requireSafe_bind (fun safe => ?_) sound
    split
    next dry =>
      have real : task.options.dryRun = false → False := by simp [dry]
      refine meets_modify_bind (meets_modify ⟨⟨?_, .refl sound.wellFormed, rfl⟩, ?_⟩)
      · exact sound.know rfl rfl fun impossible => (real impossible).elim
      · exact fun impossible => (real impossible).elim
    next notDry =>
      have real : task.options.dryRun = false := by simpa using notDry
      -- The check has been passed, so making the directory changes only what leads down to its
      -- place, and that mirrors the source.
      have lands := sound.prospect_eq real beneath safe
      have below := sound.anchored grounded beneath
      have creates : Evolves (MadeDownTo (state.fileSystem.prospect path)) state.fileSystem
          (state.fileSystem.createDirectories path).1 :=
        createDirectories_evolves sound.wellFormed below
      rw [lands] at creates
      have within := creates.mono fun _ _ => grounded.mirrored_of_madeDownTo standing
      have ensured : Meets (ensureDirectory path) state
          (fun _ after => Kept task before (MadeDownTo (task.place before names)) state after ∧
            after.fileSystem.get? (task.place before names) = some .directory)
          (Sound task before) := by
        refine meets_ensureDirectory (by simpa using unknown) (fun succeeded => ?_) ?_
        · have created : state.fileSystem.createDirectories path =
              ((state.fileSystem.createDirectories path).1, .ok ()) := Prod.ext rfl succeeded
          have there := (leads_of_createDirectories sound.wellFormed below created).1
          rw [lands] at there
          have evolved : Sound task before { state with
              fileSystem := (state.fileSystem.createDirectories path).1 } :=
            sound.evolve real within rfl
          refine ⟨⟨evolved.know rfl rfl fun _ others alike => ?_, creates, rfl⟩, there⟩
          rwa [← beneath.unique alike]
        · exact sound.evolve real within rfl
      refine ensured.bind fun isNew after ⟨kept, there⟩ => ?_
      split
      next =>
        refine meets_modify_bind (meets_modify ⟨⟨?_, kept.evolves, kept.records⟩, fun _ => there⟩)
        exact kept.sound.congr rfl rfl
      next => exact meets_pure ⟨kept, fun _ => there⟩

/-! ### Writing a file -/

variable {source : Path} {content : List UInt8}

/-- Where a real pass has written content, the content stands with the mode of the source, as the
source was at the last moment, unless what stands there keeps none. -/
structure Written (task : Task) (before : FileSystem) (source destination : Path)
    (place : Location) (content : List UInt8) (after : State) : Prop where
  accepted : checkText destination pathLimit = .ok ()
  exists_mode : ∃ (moment : State) (object : Object), Sound task before moment ∧
    moment.fileSystem.stat source = .ok object ∧
    after.fileSystem.get? place =
      some ((Object.file content (object.mode ||| ownerWrite)).inPlaceOf (before.get? place))

/-- Files may be written at the place of a source file and nowhere else. -/
abbrev WrittenFor (task : Task) (before : FileSystem) (names : List Name) (name : Name) :
    Location → Object → Prop :=
  WrittenAt (task.place before (task.renamed names name)) fun _ => True

theorem write_meets (sound : Sound task before state) (real : task.options.dryRun = false)
    (standing : before.get? (task.stand before (names ++ [name])) = some object)
    (noDirectory : object.isDirectory = false)
    (fills : task.Fills before names name object content)
    (beneath : Path.Beneath path task.twin (task.renamed names name))
    (lands : state.fileSystem.prospect path = task.place before (task.renamed names name)) :
    Meets (write source path content) state
      (fun _ after => Kept task before (WrittenFor task before names name) state after ∧
        Written task before source path (task.place before (task.renamed names name)) content after)
      (Sound task before) := by
  have renamed : Placement.fileName task.options.renamings name ∈ task.renamed names name :=
    List.mem_append_right _ List.mem_cons_self
  have plain := beneath.plain _ renamed
  have member : Placement.fileName task.options.renamings name ∈ path.names := by
    have onRoute : Placement.fileName task.options.renamings name ∈ path.route := by
      rw [beneath.route_eq]
      exact List.mem_append_right _ renamed
    exact (List.mem_filter.1 onRoute).1
  -- Changing a mode keeps what a file holds, so only the middle one of the three steps needs that
  -- the new content fits.
  have remoded : ∀ {middle : State}, Sound task before middle → ∀ location made,
      WrittenAt (task.place before (task.renamed names name))
        (middle.fileSystem.HoldsAt (task.place before (task.renamed names name))) location made →
      Mirrored task before location made := by
    rintro middle sound _ _ ⟨holds⟩
    exact sound.mirrored_of_holdsAt standing noDirectory holds
  have alike : ∀ {fits : List UInt8 → Prop} location made,
      WrittenAt (task.place before (task.renamed names name)) fits location made →
        WrittenFor task before names name location made := by
    rintro fits _ _ ⟨_⟩
    exact .file trivial
  unfold write
  refine meets_change_bind (fun writable found => ?_) sound
  have first := ensureWritable_evolves sound.wellFormed found
  rw [lands] at first
  have soundFirst : Sound task before { state with fileSystem := writable } :=
    sound.evolve real (first.mono (remoded sound)) rfl
  refine meets_change_bind (fun filled found => ?_) soundFirst
  have landsFirst : writable.prospect path = _ := (first.prospect_eq path).trans lands
  obtain ⟨second, mode, filled_eq⟩ :=
    writeFile_spec first.wellFormed (landsFirst.trans (task.place_renamed before names name)) member
      plain found
  rw [landsFirst] at second filled_eq
  have soundSecond : Sound task before { state with fileSystem := filled } :=
    soundFirst.fill real standing noDirectory fills second
  refine meets_change (fun done found => ?_) soundSecond
  have landsSecond : filled.prospect path = _ := (second.prospect_eq path).trans landsFirst
  obtain ⟨model, shown, changed⟩ := bind_eq_ok_iff.1 found
  obtain ⟨_, located, _⟩ := bind_eq_ok_iff.1 changed
  have accepted := (locate_eq_ok_iff.1 located).1
  obtain ⟨third, modes⟩ := setMode_spec second.wellFormed changed
  rw [landsSecond] at third modes
  have soundThird : Sound task before { state with fileSystem := done } :=
    soundSecond.evolve real (third.mono (remoded soundSecond)) rfl
  -- What is written to has not become a FIFO or a device since the start.
  have kept : ∀ file : Object, file.inPlaceOf (writable.get? _) = file.inPlaceOf (before.get? _) :=
    (soundFirst.evolves.developed (task.place before (task.renamed names name))).inPlaceOf_eq
  refine ⟨⟨soundThird, ?_, rfl⟩, accepted, _, model, soundSecond, shown, ?_⟩
  · exact ((first.mono alike).trans (second.mono alike)).trans (third.mono alike)
  rw [kept] at filled_eq
  rw [modes _ filled_eq, Object.withMode_inPlaceOf]
  rfl

/-- What copying a file has done. -/
structure Copied (task : Task) (before : FileSystem) (directory path : Path) (names : List Name)
    (name : Name) (state after : State) : Prop where
  sound : Sound task before after
  evolves : Evolves (fun location object =>
      MadeDownTo (task.place before names) location object ∨
        WrittenFor task before names name location object)
    state.fileSystem after.fileSystem
  records : after.journal.report.records = state.journal.report.records ++
    [⟨path, Placement.file task.source task.twin task.options.renamings path,
      task.policy directory⟩]
  written : task.options.dryRun = false → ∃ (moment : State) (text : List Char),
    Sound task before moment ∧ moment.fileSystem.readText path = .ok text ∧
    Written task before path (Placement.file task.source task.twin task.options.renamings path)
      (task.place before (task.renamed names name))
      (Utf8.encode (adapt task.rules (task.policy directory) text)) after

theorem copy_meets (grounded : Grounded task before) (sound : Sound task before state)
    (standing : before.get? (task.stand before (names ++ [name])) = some object)
    (noDirectory : object.isDirectory = false)
    (beneath : Path.Beneath directory task.source names) :
    Meets (copy task directory (directory.join ⟨name⟩)) state
      (fun _ after => Copied task before directory (directory.join ⟨name⟩) names name state after)
      (Sound task before) := by
  have stand_eq := task.stand_append_singleton before names name
  have plain : IsPlain name :=
    grounded.wellFormed.isPlain standing name (by simp [stand_eq])
  have inside := beneath.join plain
  have behind : Path.Beneath (Placement.file task.source task.twin task.options.renamings
      (directory.join ⟨name⟩)) task.twin (task.renamed names name) :=
    Placement.beneath_file grounded.replaced inside
  obtain ⟨parent, found, above⟩ : ∃ parent, (Placement.file task.source task.twin
      task.options.renamings (directory.join ⟨name⟩)).parent? = some parent ∧
      Path.Beneath parent task.twin names :=
    Placement.exists_parent?_file grounded.replaced inside
  have enclosed : before.get? (task.stand before names) = some .directory := by
    have higher := grounded.wellFormed.get?_tail standing
    rwa [stand_eq] at higher
  unfold copy
  simp only [found]
  refine (materialize_meets grounded sound enclosed above).bind fun _ ready ⟨kept, _⟩ => ?_
  refine meets_requireSafe_bind (fun safe => ?_) kept.sound
  refine meets_ask_bind (fun text read => ?_) kept.sound
  split
  next dry =>
    refine meets_modify_bind (meets_modify ⟨kept.sound.congr rfl rfl, ?_, ?_, ?_⟩)
    · exact kept.evolves.mono fun _ _ => .inl
    · exact congrArg (· ++ _) kept.records
    · intro real
      rw [real] at dry
      cases dry
  next notDry =>
    have real : task.options.dryRun = false := by simpa using notDry
    have lands := kept.sound.prospect_eq real behind safe
    refine meets_modify_bind ?_
    -- A regular file has been read at its place; behind a link, any text may have been read.
    have fills : task.Fills before names name object
        (Utf8.encode (adapt task.rules (task.policy directory) text)) := by
      refine .adapted beneath fun raw mode regular => ?_
      subst regular
      exact kept.sound.decode?_of_readText grounded beneath (stand_eq ▸ standing) read
    refine Meets.bind (write_meets (kept.sound.congr rfl rfl) real standing noDirectory fills behind
      lands) ?_
    rintro _ done ⟨wrote, written⟩
    refine meets_modify ⟨?_, ?_, ?_, fun _ => ?_⟩
    · exact wrote.sound.congr rfl rfl
    · exact (kept.evolves.mono fun _ _ => .inl).trans (wrote.evolves.mono fun _ _ => .inr)
    · exact congrArg (· ++ _) (wrote.records.trans kept.records)
    · exact ⟨ready, text, kept.sound, read, written.accepted, written.exists_mode⟩

end Pass

end TwinTree
