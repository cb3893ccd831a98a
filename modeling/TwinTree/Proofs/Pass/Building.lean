import TwinTree.Proofs.Destination.Acceptance
import TwinTree.Proofs.Enumeration
import TwinTree.Proofs.FileSystem.Vacancy
import TwinTree.Proofs.Pass.Copies
import TwinTree.Proofs.Pass.Lockstep

/-!
# Building a twin from nothing

Where nothing was beneath the root of the twin, all that stands there at any moment of a walk has
been built by it. So a directory that the walk comes to is missing or has been made
(`Building.place_free`), a copy is missing or has been written (`Building.goal_free`), and with
paths that are not too long every place is safe (`Building.checkSafe`).
-/
namespace TwinTree

open FileSystem

/-- A walk comes to a file and copies it. -/
def Task.Gathers (task : Task) (before : FileSystem) (file : SourceFile) : Prop :=
  task.Visits before file.names ∧ file ∈ task.taken before file.names

/-- No path that a walk hands to the system is too long: those of the directories it visits and of
the files it copies, in the source and in the twin, and the absolute ones by which it inspects the
places in the twin. -/
structure Task.Fits (task : Task) (before : FileSystem) : Prop where
  directories : ∀ trail, task.Visits before trail →
    (task.source.extend trail).bytes.length ≤ pathLimit ∧
    (Placement.directory task.source task.twin (task.source.extend trail)).bytes.length ≤
      pathLimit ∧
    ((before.absolutize task.twin).extend trail).bytes.length ≤ pathLimit
  files : ∀ file, task.Gathers before file →
    (task.path file).bytes.length ≤ pathLimit ∧
    (task.record file).destination.bytes.length ≤ pathLimit ∧
    ((before.absolutize task.twin).extend (task.renamed file.names file.name)).bytes.length ≤
      pathLimit

/-- No directory is visited that has the name of a copy beside it. -/
def Task.Uncontested (task : Task) (before : FileSystem) : Prop :=
  ∀ file, task.Gathers before file → ¬ task.Visits before (task.renamed file.names file.name)

/-- What a walk that builds a twin from nothing takes for granted. -/
structure Site (task : Task) (before : FileSystem) : Prop where
  grounded : Grounded task before
  undisturbed : Undisturbed before task.source task.twin
  real : task.options.dryRun = false
  readable : NamesReadable before task.source
  standard : task.options.renamings = ({} : Options).renamings
  source_ne_nil : task.source.bytes ≠ []
  twin_ne_nil : task.twin.bytes ≠ []
  solid : ¬ task.twin.EndsInDot
  vacant : before.get? (task.root before) = none
  fits : task.Fits before
  uncontested : task.Uncontested before

/-- What a walk builds: directories down to those that it visits, and the copies of files. -/
inductive Task.Builds (task : Task) (before : FileSystem) : Location → Object → Prop where
  | directory {trail : List Name} {location : Location} {object : Object} :
      task.Visits before trail → MadeDownTo (task.place before trail) location object →
      Task.Builds task before location object
  | file {file : SourceFile} {location : Location} {object : Object} :
      task.Gathers before file →
      Pass.WrittenFor task before file.names file.name location object →
      Task.Builds task before location object

/-- The invariant of a walk that builds a twin from nothing. -/
structure Building (task : Task) (before : FileSystem) (state : State) : Prop where
  sound : Sound task before state
  builds : Evolves (task.Builds before) before state.fileSystem

variable {task : Task} {before : FileSystem} {state after : State} {names rest : List Name}
  {file : SourceFile} {path : Path}

/-! ### Names that fit -/

/-- A directory on the way to one that is visited is visited. -/
theorem Task.Visits.of_append (visits : task.Visits before (names ++ rest))
    (wellFormed : before.WellFormed) : task.Visits before names := by
  refine ⟨?_, fun name member => visits.2 name (List.mem_append_left _ member)⟩
  have standing := visits.1
  rw [Task.stand, List.reverse_append, List.append_assoc] at standing
  exact wellFormed.directory_of_append standing

theorem Task.Visits.isOrdinary (visits : task.Visits before names)
    (wellFormed : before.WellFormed) : ∀ name ∈ names, IsOrdinary name := fun name member =>
  wellFormed.isOrdinary visits.1 name (by simp [Task.stand, member])

theorem Placement.isOrdinary_fileName {name : Name} (ordinary : IsOrdinary name)
    (isText : (Utf8.decode? name).isSome = true) :
    IsOrdinary (fileName ({} : Options).renamings name) := by
  obtain ⟨text, decoded⟩ := Option.isSome_iff_exists.1 isText
  rw [fileName, rename_standard]
  split
  · decide
  split
  · decide
  · rwa [Utf8.lossy_eq_of_decode? decoded, Utf8.encode_eq_of_decode? decoded]

theorem Task.Gathers.isOrdinary_renamed (gathers : task.Gathers before file)
    (site : Site task before) :
    ∀ name ∈ task.renamed file.names file.name, IsOrdinary name := by
  have wellFormed := site.grounded.wellFormed
  refine List.forall_mem_append.2 ⟨gathers.1.isOrdinary wellFormed, ?_⟩
  obtain ⟨object, standing, _⟩ := task.exists_standing_of_mem_taken wellFormed gathers.2
  rw [List.forall_mem_singleton, site.standard]
  exact Placement.isOrdinary_fileName
    (wellFormed.isOrdinary standing file.name List.mem_cons_self)
    (site.readable (file.name :: file.names.reverse) object standing file.name List.mem_cons_self)

/-! ### What stands beneath the root -/

/-- At the start there is nothing. -/
theorem Site.missing (site : Site task before) (names : List Name) :
    before.get? (task.place before names) = none := by
  by_cases root : names = []
  · subst root
    exact site.vacant
  · exact site.grounded.wellFormed.get?_append (by simp [site.vacant]) (by simpa using root)

namespace Building

variable (building : Building task before state) (site : Site task before)

include building

theorem congr (sameFiles : after.fileSystem = state.fileSystem)
    (sameKnown : after.materialized = state.materialized) : Building task before after :=
  ⟨building.sound.congr sameFiles sameKnown, sameFiles ▸ building.builds⟩

theorem evolve (sound : Sound task before after)
    (evolves : Evolves (task.Builds before) state.fileSystem after.fileSystem) :
    Building task before after :=
  ⟨sound, building.builds.trans evolves⟩

include site

/-- Beneath the root there is nothing, a directory down to one that is visited, or a copy. -/
theorem standing_cases (names : List Name) :
    state.fileSystem.get? (task.place before names) = none ∨
      (state.fileSystem.get? (task.place before names) = some .directory ∧
        ∃ trail, task.Visits before trail ∧ names <+: trail) ∨
      ∃ file content mode, task.Gathers before file ∧
        task.renamed file.names file.name = names ∧
        state.fileSystem.get? (task.place before names) = some (.file content mode) := by
  have unplaced : ∀ {others : List Name}, task.place before names = task.place before others →
      others = names := fun same => (List.reverse_inj.1 (List.append_cancel_right same)).symm
  rcases building.builds.changed (task.place before names) with same | ⟨object, standing, built⟩
  · exact .inl (same.trans (site.missing names))
  generalize place_eq : task.place before names = location at standing built
  cases built with
  | @directory trail _ _ visits made =>
    obtain ⟨above, rfl⟩ := made
    rw [← place_eq] at above
    have within : names <+: trail := List.reverse_suffix.1 (List.suffix_append_self_iff.1 above)
    exact .inr (.inl ⟨standing, trail, visits, within⟩)
  | file gathers written =>
    cases written
    exact .inr (.inr ⟨_, _, _, gathers, unplaced place_eq, standing⟩)

/-- A directory that a walk comes to is missing or there: no copy stands in its place. -/
theorem place_free (visits : task.Visits before names) :
    state.fileSystem.get? (task.place before names) = none ∨
      state.fileSystem.get? (task.place before names) = some .directory := by
  rcases building.standing_cases site names with
    missing | ⟨there, _⟩ | ⟨file, _, _, gathers, rfl, _⟩
  · exact .inl missing
  · exact .inr there
  · exact absurd visits (site.uncontested file gathers)

/-- The place of a copy is empty or holds a file: no directory stands there. -/
theorem goal_free (gathers : task.Gathers before file) :
    state.fileSystem.get? (task.goal before file) = none ∨
      ∃ content mode,
        state.fileSystem.get? (task.goal before file) = some (.file content mode) := by
  rcases building.standing_cases site (task.renamed file.names file.name) with
    missing | ⟨_, trail, visits, rest, rfl⟩ | ⟨_, content, mode, _, _, standing⟩
  · exact .inl missing
  · exact absurd (visits.of_append site.grounded.wellFormed) (site.uncontested file gathers)
  · exact .inr ⟨content, mode, standing⟩

/-! ### Texts that are accepted -/

theorem nul_notMem (beneath : Path.Beneath path task.twin names)
    (ordinary : ∀ name ∈ names, IsOrdinary name) : 0 ∉ path.bytes := by
  obtain ⟨directory, _, leads⟩ := building.sound.root site.real
  have absent := leads.nul_notMem building.sound.wellFormed (by simp [directory])
  refine nul_notMem_of_route fun name member => ?_
  rw [beneath.route_eq, List.mem_append] at member
  rcases member with above | behind
  · exact absent name (List.mem_filter.1 above).1
  · exact (ordinary name behind).nul_notMem

theorem accepted (beneath : Path.Beneath path task.twin names)
    (ordinary : ∀ name ∈ names, IsOrdinary name) (short : path.bytes.length ≤ pathLimit) :
    checkText path pathLimit = .ok () := by
  refine checkText_eq_ok_iff.2 ⟨building.nul_notMem site beneath ordinary, fun empty => ?_, short⟩
  have nothing := beneath.components_eq
  rw [Path.components_eq_nil_iff.2 empty] at nothing
  have root := (List.append_eq_nil_iff.1 nothing.symm).1
  exact site.twin_ne_nil (Path.components_eq_nil_iff.1 root)

/-- A place in a directory that is there is safe, unless it holds a link. -/
theorem checkSafe (beneath : Path.Beneath path task.twin names)
    (ordinary : ∀ name ∈ names, IsOrdinary name)
    (short : ((before.absolutize task.twin).extend names).bytes.length ≤ pathLimit)
    (enclosed : state.fileSystem.get? (task.place before names.dropLast) = some .directory)
    (noLink : ∀ target, state.fileSystem.get? (task.place before names) ≠ some (.link target)) :
    state.fileSystem.checkSafe path task.twin = .ok () := by
  obtain ⟨directory, _, leads⟩ := building.sound.root site.real
  refine (checkSafe_eq_ok_iff building.sound.wellFormed beneath enclosed leads).2 ⟨?_, noLink⟩
  have wellFormed := building.sound.wellFormed
  have same : state.fileSystem.absolutize task.twin = before.absolutize task.twin := by
    rw [absolutize, absolutize, building.sound.evolves.working]
  -- The absolute text starts at the root, and all its names lead somewhere.
  have way := leads.absolutize wellFormed
  have absent := nul_notMem_of_names (way.nul_notMem wellFormed (by simp [directory]))
  rw [same] at absent ⊢
  exact Path.accepted_of_extend absent ordinary short

/-- The place of a copy is safe. -/
theorem checkSafe_copy (gathers : task.Gathers before file)
    (enclosed : state.fileSystem.get? (task.place before file.names) = some .directory) :
    state.fileSystem.checkSafe (task.record file).destination task.twin = .ok () := by
  have grounded := site.grounded
  have beneath : Path.Beneath (task.record file).destination task.twin
      (task.renamed file.names file.name) :=
    Placement.beneath_file grounded.replaced
      (task.beneath_of_mem_taken grounded.wellFormed gathers.2)
  refine building.checkSafe site beneath (gathers.isOrdinary_renamed site)
    (site.fits.files file gathers).2.2 ?_ fun target link => ?_
  · rwa [Task.renamed, List.dropLast_concat]
  · rcases building.goal_free site gathers with missing | ⟨content, mode, there⟩
    · cases missing.symm.trans link
    · cases there.symm.trans link

end Building

end TwinTree
