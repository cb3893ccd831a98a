import TwinTree.Proofs.Pass.Tour

/-!
# The progress of a walk

A walk makes progress by accounting for directories and copying files. `Progress` says what the
progress between two states has done to the records and to the files: which locations may have
changed, which directories are there, and that each copied file is filled unless a later one has
the same place. Two stretches of progress make one (`Progress.trans`).
-/
namespace TwinTree

open FileSystem

/-- A file of the source: the names that lead to its directory, and its own. -/
structure SourceFile where
  names : List Name
  name : Name

namespace Task

/-- The path under which a walk comes to a file. -/
def path (task : Task) (file : SourceFile) : Path :=
  (task.source.extend file.names).join ⟨file.name⟩

/-- What a pass notes about a file that it copies. -/
def record (task : Task) (file : SourceFile) : Record where
  source := task.path file
  destination := Placement.file task.source task.twin task.options.renamings (task.path file)
  stripped := task.policy (task.source.extend file.names)

/-- Where a file is copied to. -/
def goal (task : Task) (before : FileSystem) (file : SourceFile) : Location :=
  task.place before (task.renamed file.names file.name)

/-- The files among some entries of a source directory that are copied. -/
def takenAmong (task : Task) (before : FileSystem) (names : List Name)
    (entries : List (Name × Object)) : List SourceFile :=
  (entries.filter fun found =>
    task.Takes before (.ofEntry (task.source.extend names) found)).map fun found =>
      ⟨names, found.1⟩

/-- The files of a source directory that are copied, in order. -/
def taken (task : Task) (before : FileSystem) (names : List Name) : List SourceFile :=
  task.takenAmong before names (task.listed before names .file)

end Task

theorem Task.takenAmong_append (task : Task) (before : FileSystem) (names : List Name)
    (done behind : List (Name × Object)) : task.takenAmong before names (done ++ behind) =
      task.takenAmong before names done ++ task.takenAmong before names behind := by
  rw [takenAmong, List.filter_append, List.map_append, takenAmong, takenAmong]

theorem Task.takenAmong_singleton (task : Task) (before : FileSystem) (names : List Name)
    (found : Name × Object) : task.takenAmong before names [found] =
      if task.Takes before (.ofEntry (task.source.extend names) found) then [⟨names, found.1⟩]
      else [] := by
  rw [takenAmong, List.filter_singleton]
  by_cases takes : task.Takes before (.ofEntry (task.source.extend names) found) <;> simp [takes]

theorem Task.mem_taken_of_mem_takenAmong {task : Task} {before : FileSystem} {names : List Name}
    {done : List (Name × Object)} {file : SourceFile}
    (within : done ⊆ task.listed before names .file)
    (member : file ∈ task.takenAmong before names done) : file ∈ task.taken before file.names := by
  obtain ⟨found, kept, rfl⟩ := List.mem_map.1 member
  obtain ⟨isDone, takes⟩ := List.mem_filter.1 kept
  exact List.mem_map.2 ⟨found, List.mem_filter.2 ⟨within isDone, takes⟩, rfl⟩

/-- A copy of a file stands at its place, as the source was at the start, unless what stands there
keeps none. -/
structure Filled (task : Task) (before : FileSystem) (file : SourceFile) (after : FileSystem) :
    Prop where
  accepted : checkText (task.record file).destination pathLimit = .ok ()
  copied : ∃ raw mode text, before.stat (task.path file) = .ok (.file raw mode) ∧
    Utf8.decode? raw = some text ∧ after.get? (task.goal before file) =
      some ((Object.file (Utf8.encode (adapt task.rules (task.record file).stripped text))
        (mode ||| ownerWrite)).inPlaceOf (before.get? (task.goal before file)))

/-- What may come to stand anywhere while directories are accounted for and files are copied. -/
def Footprint (task : Task) (before : FileSystem) (trails : List (List Name))
    (files : List SourceFile) (location : Location) (object : Object) : Prop :=
  (∃ trail ∈ trails, MadeDownTo (task.place before trail) location object) ∨
    ∃ file ∈ files, MadeDownTo (task.place before file.names) location object ∨
      Pass.WrittenFor task before file.names file.name location object

/-- What has been done between two states. -/
structure Progress (task : Task) (before : FileSystem) (trails : List (List Name))
    (files : List SourceFile) (state after : State) : Prop where
  sound : Sound task before after
  records : after.journal.report.records = state.journal.report.records ++ files.map task.record
  evolves : Evolves (Footprint task before trails files) state.fileSystem after.fileSystem
  directories : task.options.dryRun = false → ∀ trail ∈ trails,
    after.fileSystem.get? (task.place before trail) = some .directory
  filled : task.options.dryRun = false → ∀ front file back, files = front ++ file :: back →
    (∀ later ∈ back, task.goal before later ≠ task.goal before file) →
    Filled task before file after.fileSystem

variable {task : Task} {before : FileSystem} {state middle after : State} {names : List Name}
  {name : Name} {trails further : List (List Name)} {files others : List SourceFile}
  {file : SourceFile}

theorem Footprint.mono {location : Location} {object : Object}
    (within : Footprint task before trails files location object) (more : trails ⊆ further)
    (others_of : files ⊆ others) : Footprint task before further others location object :=
  within.imp (fun ⟨trail, member, made⟩ => ⟨trail, more member, made⟩)
    fun ⟨file, member, made⟩ => ⟨file, others_of member, made⟩

/-- What comes to stand somewhere is a directory or the copy of a file. -/
theorem Footprint.directory_or_goal {location : Location} {object : Object}
    (within : Footprint task before trails files location object) :
    object = .directory ∨ ∃ file ∈ files, task.goal before file = location := by
  rcases within with ⟨_, _, _, isDirectory⟩ | ⟨file, member, ⟨_, isDirectory⟩ | written⟩
  · exact .inl isDirectory
  · exact .inl isDirectory
  · cases written
    exact .inr ⟨file, member, rfl⟩

/-- A copy stays as it is while no file is copied to the same place. -/
theorem Filled.evolve {fs made : FileSystem} (filled : Filled task before file fs)
    (evolves : Evolves (Footprint task before trails files) fs made)
    (elsewhere : ∀ later ∈ files, task.goal before later ≠ task.goal before file) :
    Filled task before file made := by
  obtain ⟨raw, mode, text, shown, decoded, standing⟩ := filled.copied
  refine ⟨filled.accepted, raw, mode, text, shown, decoded, ?_⟩
  rw [← standing]
  refine evolves.get?_eq fun object found within => ?_
  -- Nothing makes a directory of what stands there, so only another copy could have changed it.
  have noDirectory : object ≠ .directory := by
    rintro rfl
    rcases (evolves.developed _).of_directory found with there | missing
    · have same := Option.some.inj (standing.symm.trans there)
      cases same ▸ Object.isDirectory_inPlaceOf rfl _
    · cases standing.symm.trans missing
  obtain ⟨later, member, same⟩ := within.directory_or_goal.resolve_left noDirectory
  exact elsewhere later member same

namespace Progress

theorem refl (sound : Sound task before state) : Progress task before [] [] state state where
  sound := sound
  records := by simp
  evolves := .refl sound.wellFormed
  directories _ _ member := by cases member
  filled _ front file back split := by simp at split

theorem trans (first : Progress task before trails files state middle)
    (second : Progress task before further others middle after) :
    Progress task before (trails ++ further) (files ++ others) state after where
  sound := second.sound
  records := by rw [second.records, first.records, List.map_append, List.append_assoc]
  evolves := by
    refine (first.evolves.mono fun _ _ within => ?_).trans
      (second.evolves.mono fun _ _ within => ?_)
    · exact within.mono (List.subset_append_left ..) (List.subset_append_left ..)
    · exact within.mono (List.subset_append_right ..) (List.subset_append_right ..)
  directories real trail member := by
    rcases List.mem_append.1 member with early | late
    · exact second.evolves.directory (first.directories real trail early)
    · exact second.directories real trail late
  filled real front file back split last := by
    -- A file of the second stretch is filled by it; one of the first is, unless the second has
    -- changed its place.
    rcases List.append_eq_append_iff.1 split with ⟨rest, rfl, rfl⟩ | ⟨rest, rfl, behind⟩
    · exact second.filled real rest file back rfl last
    · cases rest with
      | nil => exact second.filled real [] file back behind.symm last
      | cons head tail =>
        rw [List.cons_append, List.cons.injEq] at behind
        obtain ⟨rfl, rfl⟩ := behind
        rw [List.forall_mem_append] at last
        exact (first.filled real front _ tail rfl last.1).evolve second.evolves last.2

/-- What changes no file and records nothing is no step back. -/
theorem quiet (progress : Progress task before trails files state middle)
    (quiet : Pass.Quiet middle after) : Progress task before trails files state after where
  sound := quiet.sound progress.sound
  records := quiet.records.trans progress.records
  evolves := quiet.files ▸ progress.evolves
  directories := quiet.files ▸ progress.directories
  filled := quiet.files ▸ progress.filled

theorem of_kept (kept : Pass.Kept task before (MadeDownTo (task.place before names)) state after)
    (there : task.options.dryRun = false →
      after.fileSystem.get? (task.place before names) = some .directory) :
    Progress task before [names] [] state after where
  sound := kept.sound
  records := by simp [kept.records]
  evolves := kept.evolves.mono fun _ _ made => .inl ⟨names, List.mem_cons_self, made⟩
  directories real trail member := by
    obtain rfl := List.mem_singleton.1 member
    exact there real
  filled _ front file back split := by simp at split

/-- Only which directories are accounted for matters. -/
theorem of_subset (progress : Progress task before trails files state after)
    (fewer : further ⊆ trails) (all : trails ⊆ further) :
    Progress task before further files state after where
  sound := progress.sound
  records := progress.records
  evolves := progress.evolves.mono fun _ _ within => within.mono all (List.Subset.refl _)
  directories real trail member := progress.directories real trail (fewer member)
  filled := progress.filled

/-- A file that is taken is a regular one, or leads to one. -/
theorem isRegular_of_takes {object shown : Object} (grounded : Grounded task before)
    (standing : before.get? (task.stand before (names ++ [name])) = some object)
    (same : SourceEntry.kind before ((task.source.extend names).join ⟨name⟩) object = .file)
    (takes : task.Takes before (.ofEntry (task.source.extend names) (name, object)))
    (found : before.stat ((task.source.extend names).join ⟨name⟩) = .ok shown) :
    shown.isRegular = true := by
  rw [task.stand_append_singleton] at standing
  -- A link that is taken leads to a regular file; any other entry shows itself.
  cases link : object.isLink with
  | true =>
    obtain ⟨target, leads, regular⟩ := SourceEntry.hasContent_iff.1 takes.2 link
    cases found.symm.trans leads
    exact regular
  | false =>
    have enclosed : before.get? (task.stand before names) = some .directory :=
      grounded.wellFormed.get?_tail standing
    have plain : ∀ name ∈ names, IsPlain name := fun name member =>
      grounded.wellFormed.isPlain enclosed name (by simp [Task.stand, member])
    obtain ⟨left, leads⟩ := grounded.leads_stand (Path.Beneath.extend plain) enclosed
    cases get?_of_stat grounded.wellFormed leads standing link found
    cases object <;> first | rfl | cases same | cases link

/-- A file that is copied is filled, whatever has been copied before. -/
theorem of_copied {object : Object} (grounded : Grounded task before)
    (undisturbed : Undisturbed before task.source task.twin)
    (beneath : Path.Beneath (task.source.extend names) task.source names)
    (standing : before.get? (task.stand before (names ++ [name])) = some object)
    (same : SourceEntry.kind before ((task.source.extend names).join ⟨name⟩) object = .file)
    (takes : task.Takes before (.ofEntry (task.source.extend names) (name, object)))
    (copied : Pass.Copied task before (task.source.extend names)
      ((task.source.extend names).join ⟨name⟩) names name state after) :
    Progress task before [] [⟨names, name⟩] state after where
  sound := copied.sound
  records := copied.records
  evolves := copied.evolves.mono fun _ _ made => .inr ⟨_, List.mem_cons_self, made⟩
  directories _ _ member := by cases member
  filled real front file back split _ := by
    obtain ⟨rfl, same_file⟩ := List.append_eq_singleton_iff.1 split.symm |>.resolve_right (by simp)
    cases same_file
    obtain ⟨reading, text, soundReading, read, written⟩ := copied.written real
    obtain ⟨writing, model, soundWriting, shownWriting, result⟩ := written.exists_mode
    have entry := task.stand_append_singleton before names name ▸ standing
    -- The source is asked for its content and for its mode at two moments; it answers as it would
    -- have at the start.
    obtain ⟨shown, found, _⟩ := bind_eq_ok_iff.1 read
    have first := (soundReading.stat_eq grounded undisturbed beneath entry).symm.trans found
    have second := (soundWriting.stat_eq grounded undisturbed beneath entry).symm.trans shownWriting
    cases first.symm.trans second
    have regular := isRegular_of_takes grounded standing same takes first
    cases model with
    | file raw mode =>
      exact ⟨written.accepted, raw, mode, text, first, decode?_of_readText found read, result⟩
    | _ => cases regular

end Progress

end TwinTree
