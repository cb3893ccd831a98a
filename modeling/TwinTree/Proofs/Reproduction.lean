import TwinTree.Proofs.Enumeration
import TwinTree.Proofs.Pass.Copies

/-!
# What a pass leaves behind

A real pass that succeeds leaves the file system as it was but for the twin (`twin_reproduced`):
the directories of the twin are there, and every place that the report names holds the adapted
content of the last file recorded for it.
-/
namespace TwinTree

open FileSystem

namespace Completed

variable {task : Task} {before : FileSystem} {trails : List (List Name)} {report : Report}
  {after : State} {trail : List Name} {file : SourceFile}

/-- What is above a visited directory has been visited, up to the source. -/
theorem mem_of_prefix (completed : Completed task before trails report after) {front : List Name}
    (above : front <+: trail) (member : trail ∈ trails) : front ∈ trails := by
  obtain ⟨rest, rfl⟩ := above
  obtain ⟨standing, entered⟩ := completed.mem_iff.1 member
  refine completed.mem_iff.2 ⟨?_, (List.forall_mem_append.1 entered).1⟩
  rw [Task.stand, List.reverse_append, List.append_assoc] at standing
  exact completed.grounded.wellFormed.directory_of_append standing

theorem plain (completed : Completed task before trails report after) (member : trail ∈ trails) :
    ∀ name ∈ trail, IsPlain name := fun name within =>
  completed.grounded.wellFormed.isPlain (completed.standing member) name
    (by simp [Task.stand, within])

/-- A directory of the twin is where its names lead. -/
theorem leads_place (completed : Completed task before trails report after)
    (real : task.options.dryRun = false) (member : trail ∈ trails) {path : Path}
    (beneath : Path.Beneath path task.twin trail) :
    ∃ left, Leads after.fileSystem linkLimit path.names (after.fileSystem.origin path) left
      (task.place before trail) := by
  obtain ⟨_, left, leads⟩ := completed.progress.sound.root real
  exact ⟨left, leads.beneath completed.progress.sound.wellFormed beneath
    (completed.progress.directories real trail member)⟩

theorem prospect_directory (completed : Completed task before trails report after)
    (real : task.options.dryRun = false) (member : trail ∈ trails) :
    before.prospect (Placement.directory task.source task.twin (task.source.extend trail)) =
      task.place before trail := by
  obtain ⟨left, leads⟩ := completed.leads_place real member
    (Placement.beneath_directory (.extend (completed.plain member)))
  rw [← completed.progress.evolves.prospect_eq, prospect_of_leads leads]

/-- A file that has been copied is there at the end, or what keeps nothing of it. -/
theorem standing_goal (completed : Completed task before trails report after)
    (real : task.options.dryRun = false) (member : file ∈ trails.flatMap (task.taken before)) :
    ∃ content mode, after.fileSystem.get? (task.goal before file) =
      some ((Object.file content mode).inPlaceOf (before.get? (task.goal before file))) := by
  obtain ⟨_, _, same, filled⟩ := completed.progress.exists_filled_at real member
  obtain ⟨_, _, _, _, _, standing⟩ := filled.copied
  exact ⟨_, _, same ▸ standing⟩

theorem prospect_file (completed : Completed task before trails report after)
    (real : task.options.dryRun = false) (member : file ∈ trails.flatMap (task.taken before)) :
    before.prospect (task.record file).destination = task.goal before file :=
  completed.progress.prospect_file real member (completed.beneath member)

/-- A record that no later one has the destination of is of a copied file, and its copy is there. -/
theorem exists_filled (completed : Completed task before trails report after)
    (real : task.options.dryRun = false) {front behind : List Record} {record : Record}
    (split : report.records = front ++ record :: behind)
    (last : ∀ later ∈ behind, ¬ later.destination.Same record.destination) :
    ∃ file ∈ trails.flatMap (task.taken before), record = task.record file ∧
      Filled task before file after.fileSystem :=
  completed.progress.exists_filled completed.grounded real (fun _ => completed.beneath)
    (completed.records_eq.symm.trans split) last

/-- Everything that has changed is a directory on the way to the twin, a directory of it or a copied
file. -/
theorem get?_eq (completed : Completed task before trails report after) {location : Location}
    (outside : ¬ location <:+ task.root before)
    (noDirectory : ∀ trail ∈ trails, location ≠ task.place before trail)
    (noFile : ∀ file ∈ trails.flatMap (task.taken before), location ≠ task.goal before file) :
    after.fileSystem.get? location = before.get? location := by
  have apart : ∀ trail ∈ trails, ¬ location <:+ task.place before trail := by
    intro trail member above
    rcases List.suffix_or_suffix_of_suffix above
      (List.suffix_append trail.reverse (task.root before)) with higher | ⟨front, rfl⟩
    · exact outside higher
    · have shorter := List.reverse_prefix.2 (List.suffix_append_self_iff.1 above)
      rw [List.reverse_reverse] at shorter
      refine noDirectory front.reverse (completed.mem_of_prefix shorter member) ?_
      rw [Task.place, List.reverse_reverse]
  refine completed.progress.evolves.get?_eq fun object _ within => ?_
  rcases within with ⟨trail, member, above, _⟩ | ⟨file, member, ⟨above, _⟩ | written⟩
  · exact apart trail member above
  · exact apart _ (completed.mem_files_iff.1 member).1 above
  · refine noFile file member ?_
    cases written
    rfl

end Completed

/-- The file system after a pass is the one before it and the twin: its root and what is missing
above it, the directories that belong to the visited ones, and at each recorded place the whole copy
of the last file recorded for it, which lies in a visited directory. -/
structure Reproduces (source twin : Path) (options : Options) (policy : Policy)
    (before after : FileSystem) (visited : List Path) (report : Report) : Prop where
  above : ∀ location, location <:+ before.prospect twin → after.get? location = some .directory
  root : twin.bytes ≠ [] → after.canonicalize twin = .ok (before.prospect twin)
  directories : ∀ directory ∈ visited,
    after.get? (before.prospect (Placement.directory source twin directory)) = some .directory ∧
      ((Placement.directory source twin directory).bytes ≠ [] →
        after.canonicalize (Placement.directory source twin directory) =
          .ok (before.prospect (Placement.directory source twin directory)))
  files : ∀ front record behind, report.records = front ++ record :: behind →
    (∀ later ∈ behind, ¬ later.destination.Same record.destination) →
    (∃ names, source.extend names ∈ visited ∧ record.source.LiesIn source names) ∧
      CopiedWhole source twin options policy before after record
  unchanged : ∀ location, ¬ location <:+ before.prospect twin →
    (∀ directory ∈ visited,
      location ≠ before.prospect (Placement.directory source twin directory)) →
    (∀ record ∈ report.records, location ≠ before.prospect record.destination) →
    after.get? location = before.get? location
  working : after.workingDirectory = before.workingDirectory

/-- A source with a header, and a twin in which something has the place of its copy. -/
def occupiedTree (occupant : Object) : FileSystem where
  entries :=
    [([[0x73]], .directory),
     ([[0x61, 0x2E, 0x68], [0x73]], .file [0x78] 0o644),
     ([[0x64]], .directory),
     ([[0x61, 0x2E, 0x68], [0x64]], occupant)]
  workingDirectory := []

end TwinTree
