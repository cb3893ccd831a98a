import TwinTree.Proofs.Pass.Progress

/-!
# Where copies stand

The path that a record gives for a copy leads to the place that the names of the file give
(`Sound.prospect_file`), and shows the copy (`Sound.lstat_file`). Files with one place have one path
(`Grounded.same_of_goal_eq`), so of the records with one destination the last one tells what is
there (`Progress.exists_filled`): the whole copy of its file (`CopiedWhole`).
-/
namespace TwinTree

open FileSystem

/-- What a pass makes of a file that holds a text and has a mode. -/
def copyOf (vocabulary : Vocabulary) (stripping : Bool) (text : List Char) (mode : Nat) : Object :=
  .file (Utf8.encode (adapt (Rule.standard vocabulary) stripping text)) (mode ||| ownerWrite)

/-- The copy of a recorded file stands whole in its place: the adapted content of its source, as it
was at the start and as the policy for its own directory asks for, with the mode of the source and
the owner's right to write. A FIFO or a device that was in the place at the start is still there. -/
structure CopiedWhole (source twin : Path) (options : Options) (policy : Policy)
    (before after : FileSystem) (record : Record) : Prop where
  destination : record.destination = Placement.file source twin options.renamings record.source
  stands : ∃ names raw mode text copy, record.source.LiesIn source names ∧
    record.stripped = policy (source.extend names) ∧
    before.stat record.source = .ok (.file raw mode) ∧ Utf8.decode? raw = some text ∧
    copy = (copyOf options.vocabulary record.stripped text mode).inPlaceOf
      (before.get? (before.prospect record.destination)) ∧
    after.lstat record.destination = .ok copy ∧
    after.get? (before.prospect record.destination) = some copy

/-- Among the elements of a list with a property, one is the last. -/
theorem exists_last_of_mem {α : Type} {items : List α} {property : α → Prop}
    (occurs : ∃ item ∈ items, property item) : ∃ front last behind,
      items = front ++ last :: behind ∧ property last ∧ ∀ later ∈ behind, ¬ property later := by
  induction items with
  | nil =>
    obtain ⟨_, member, _⟩ := occurs
    cases member
  | cons first rest ih =>
    by_cases further : ∃ item ∈ rest, property item
    · obtain ⟨front, last, behind, rfl, holds, none⟩ := ih further
      exact ⟨first :: front, last, behind, rfl, holds, none⟩
    · obtain ⟨item, member, holds⟩ := occurs
      have none : ∀ later ∈ rest, ¬ property later :=
        fun later within holds => further ⟨later, within, holds⟩
      rcases List.mem_cons.1 member with rfl | later
      · exact ⟨[], item, rest, rfl, holds, none⟩
      · exact absurd holds (none item later)

variable {task : Task} {before : FileSystem} {trails : List (List Name)}
  {files : List SourceFile} {state after : State} {file other : SourceFile} {object : Object}

theorem Task.goal_eq (task : Task) (before : FileSystem) (file : SourceFile) :
    task.goal before file =
      Placement.fileName task.options.renamings file.name :: task.place before file.names :=
  task.place_renamed before file.names file.name

/-- Files with the same place have the same path in the twin. -/
theorem Grounded.same_of_goal_eq (grounded : Grounded task before)
    (beneath : Path.Beneath (task.path file) task.source (file.names ++ [file.name]))
    (beneath' : Path.Beneath (task.path other) task.source (other.names ++ [other.name]))
    (same : task.goal before other = task.goal before file) :
    (task.record other).destination.Same (task.record file).destination := by
  have place_eq := List.append_cancel_right same
  have below : Path.Beneath (task.record file).destination task.twin
      (task.renamed file.names file.name) := Placement.beneath_file grounded.replaced beneath
  have below' : Path.Beneath (task.record other).destination task.twin
      (task.renamed other.names other.name) := Placement.beneath_file grounded.replaced beneath'
  rw [List.reverse_inj.1 place_eq] at below'
  exact below'.components_eq.trans below.components_eq.symm

namespace Sound

variable (sound : Sound task before state) (real : task.options.dryRun = false)
  (beneath : Path.Beneath (task.path file) task.source (file.names ++ [file.name]))

include sound real beneath

/-- The place of a copied file, as seen from its directory. -/
theorem exists_leads_file
    (enclosed : state.fileSystem.get? (task.place before file.names) = some .directory) :
    ∃ above left, (task.record file).destination =
        above.join ⟨Placement.fileName task.options.renamings file.name⟩ ∧
      Leads state.fileSystem linkLimit above.names (state.fileSystem.origin above) left
        (task.place before file.names) := by
  obtain ⟨above, destination_eq, below⟩ : ∃ above, Placement.file task.source task.twin
      task.options.renamings (task.path file) =
        above.join ⟨Placement.fileName task.options.renamings file.name⟩ ∧
      Path.Beneath above task.twin file.names := Placement.exists_file_eq beneath
  obtain ⟨_, left, leads⟩ := sound.root real
  exact ⟨above, left, destination_eq, leads.beneath sound.wellFormed below enclosed⟩

theorem prospect_file (standing : state.fileSystem.get? (task.goal before file) = some object)
    (noLink : object.isLink = false) :
    before.prospect (task.record file).destination = task.goal before file := by
  rw [task.goal_eq] at standing ⊢
  obtain ⟨above, left, destination_eq, leads⟩ :=
    sound.exists_leads_file real beneath (sound.wellFormed.get?_tail standing)
  have plain := sound.wellFormed.isPlain standing _ List.mem_cons_self
  rw [← sound.evolves.prospect_eq, destination_eq]
  have clear : Clear state.fileSystem (task.place before file.names)
      [Placement.fileName task.options.renamings file.name] := by
    refine .cons (fun target link => ?_) fun more starts nonempty => ?_
    · cases standing.symm.trans link
      cases noLink
    · exact absurd (List.prefix_nil.1 starts) nonempty
  exact prospect_of_clear leads ((Path.Beneath.refl above).join plain) clear

/-- The path of a copied file shows what stands at its place. -/
theorem lstat_file (accepted : checkText (task.record file).destination pathLimit = .ok ())
    (standing : state.fileSystem.get? (task.goal before file) = some object) :
    state.fileSystem.lstat (task.record file).destination = .ok object := by
  rw [task.goal_eq] at standing
  have enclosed : state.fileSystem.get? (task.place before file.names) = some .directory :=
    sound.wellFormed.get?_tail standing
  obtain ⟨above, left, destination_eq, leads⟩ := sound.exists_leads_file real beneath enclosed
  have ordinary := sound.wellFormed.isOrdinary standing _ List.mem_cons_self
  rw [destination_eq] at accepted ⊢
  rw [lstat_join ordinary.isPlain enclosed leads, accepted,
    if_neg (Nat.not_lt.2 ordinary.length_le), require, standing]
  rfl

end Sound

/-- The copy of a file is whole when it has been filled and nothing has been changed since. -/
theorem CopiedWhole.of_filled (sound : Sound task before state)
    (real : task.options.dryRun = false)
    (rules_eq : task.rules = Rule.standard task.options.vocabulary)
    (beneath : Path.Beneath (task.path file) task.source (file.names ++ [file.name]))
    (filled : Filled task before file state.fileSystem) :
    CopiedWhole task.source task.twin task.options task.policy before state.fileSystem
      (task.record file) where
  destination := rfl
  stands := by
    obtain ⟨raw, mode, text, shown, decoded, standing⟩ := filled.copied
    have there := sound.prospect_file real beneath standing (Object.isLink_inPlaceOf rfl _)
    have shows := sound.lstat_file real beneath filled.accepted standing
    rw [← there, rules_eq] at standing
    rw [← there, rules_eq] at shows
    exact ⟨file.names, raw, mode, text, _, ⟨file.name, beneath.plain, rfl⟩, rfl, shown, decoded,
      rfl, shows, standing⟩

/-- In the place of a copied file stands the copy of the last file that has it. -/
theorem Progress.exists_filled_at (progress : Progress task before trails files state after)
    (real : task.options.dryRun = false) (member : file ∈ files) :
    ∃ last ∈ files, task.goal before last = task.goal before file ∧
      Filled task before last after.fileSystem := by
  have occurs : ∃ other ∈ files, task.goal before other = task.goal before file :=
    ⟨file, member, rfl⟩
  obtain ⟨front, last, behind, split, same, final⟩ := exists_last_of_mem occurs
  refine ⟨last, by simp [split], same, progress.filled real front last behind split ?_⟩
  exact fun later within equal => final later within (equal.trans same)

/-- The path that is recorded for a copy leads to its place. -/
theorem Progress.prospect_file (progress : Progress task before trails files state after)
    (real : task.options.dryRun = false) (member : file ∈ files)
    (beneath : Path.Beneath (task.path file) task.source (file.names ++ [file.name])) :
    before.prospect (task.record file).destination = task.goal before file := by
  obtain ⟨last, _, same, filled⟩ := progress.exists_filled_at real member
  obtain ⟨_, _, _, _, _, standing⟩ := filled.copied
  exact progress.sound.prospect_file real beneath (same ▸ standing) (Object.isLink_inPlaceOf rfl _)

/-- Where something has changed, a directory is new, or a file has been copied there. -/
theorem Progress.changed (progress : Progress task before trails files state after)
    (location : Location) :
    after.fileSystem.get? location = state.fileSystem.get? location ∨
      (state.fileSystem.get? location = none ∧
        after.fileSystem.get? location = some .directory) ∨
      ∃ file ∈ files, task.goal before file = location := by
  rcases progress.evolves.changed location with unchanged | ⟨object, found, within⟩
  · exact .inl unchanged
  rcases within.directory_or_goal with rfl | goal
  · rcases (progress.evolves.developed location).of_directory found with there | missing
    · exact .inl (found.trans there.symm)
    · exact .inr (.inl ⟨missing, found⟩)
  · exact .inr (.inr goal)

/-- A record that no later one has the destination of is of a copied file, and its copy is there. -/
theorem Progress.exists_filled (progress : Progress task before trails files state after)
    (grounded : Grounded task before) (real : task.options.dryRun = false)
    (beneath : ∀ file ∈ files,
      Path.Beneath (task.path file) task.source (file.names ++ [file.name]))
    {front behind : List Record} {record : Record}
    (split : files.map task.record = front ++ record :: behind)
    (last : ∀ later ∈ behind, ¬ later.destination.Same record.destination) :
    ∃ file ∈ files, record = task.record file ∧ Filled task before file after.fileSystem := by
  obtain ⟨earlier, rest, files_split, _, rest_eq⟩ := List.map_eq_append_iff.1 split
  obtain ⟨file, later, rfl, rfl, rfl⟩ := List.map_eq_cons_iff.1 rest_eq
  have member : file ∈ files := by simp [files_split]
  refine ⟨file, member, rfl, progress.filled real _ _ _ files_split fun other within same => ?_⟩
  refine last _ (List.mem_map_of_mem within) ?_
  exact grounded.same_of_goal_eq (beneath file member)
    (beneath other (by simp [files_split, within])) same

end TwinTree
