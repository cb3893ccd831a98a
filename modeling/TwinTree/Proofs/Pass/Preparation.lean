import TwinTree.Proofs.Destination.Overlap
import TwinTree.Proofs.Pass.Handling

/-!
# Before the walk

A pass refuses what it cannot do, reads its patterns and makes the root of the twin. What it has
checked by then is what a walk takes for granted (`grounded_of_created`), and the invariant of the
walk holds (`sound_of_prepared`).
-/
namespace TwinTree

open FileSystem

namespace Pass

variable {source twin : Path} {options : Options} {policy : Policy} {task : Task}
  {state : State} {failed : State → Prop} {fs : FileSystem}

theorem checkArguments_meets (refused : failed state) :
    Meets (checkArguments source twin) state
      (fun _ after => after = state ∧ state.fileSystem.isDirectory source = true ∧
        state.fileSystem.overlaps source twin = false) failed := by
  unfold checkArguments
  refine meets_fileSystem_bind ?_
  cases state.fileSystem.isDirectory source with
  | false =>
    simp only [Bool.not_false, if_true]
    exact refused
  | true =>
    cases state.fileSystem.overlaps source twin with
    | true =>
      simp only [Bool.not_true, Bool.false_eq_true, if_false, if_true]
      exact refused
    | false =>
      simp only [Bool.not_true, Bool.false_eq_true, if_false]
      split
      next => exact refused
      next => exact meets_pure ⟨rfl, trivial, trivial⟩

/-- What a task is made of. -/
theorem eq_of_prepare (prepared : prepare source twin options policy = .ok task) :
    task.source = source ∧ task.twin = twin ∧ task.options = options ∧ task.policy = policy ∧
      task.rules = Rule.standard options.vocabulary ∧
      Exclusions.parse? options.patternMode options.excludedDirectories =
        .ok task.excludedDirectories ∧
      Exclusions.parse? options.patternMode options.excludedFiles = .ok task.excludedFiles := by
  unfold prepare at prepared
  cases directories : Exclusions.parse? options.patternMode options.excludedDirectories with
  | error reason =>
    rw [directories] at prepared
    cases prepared
  | ok excludedDirectories =>
    cases files : Exclusions.parse? options.patternMode options.excludedFiles with
    | error reason =>
      rw [directories, files] at prepared
      cases prepared
    | ok excludedFiles =>
      rw [directories, files] at prepared
      cases prepared
      exact ⟨rfl, rfl, rfl, rfl, rfl, rfl, rfl⟩

/-- A real pass makes the root of the twin, which is known from then on. -/
structure Prepared (task : Task) (fs : FileSystem) (after : State) : Prop where
  records : after.journal.report.records = []
  rehearsed : task.options.dryRun = true → after.fileSystem = fs
  created : task.options.dryRun = false →
    fs.createDirectories task.twin = (after.fileSystem, .ok ()) ∧ after.materialized = [task.twin]

theorem prepareRoot_meets :
    Meets (prepareRoot task.twin task.options.dryRun) { fileSystem := fs }
      (fun _ after => Prepared task fs after)
      (fun after => task.options.dryRun = false ∧
        after.fileSystem = (fs.createDirectories task.twin).1) := by
  unfold prepareRoot
  cases dry : task.options.dryRun with
  | true =>
    have rehearsed : Prepared task fs { fileSystem := fs } := ⟨rfl, fun _ => rfl, by simp [dry]⟩
    exact rehearsed
  | false =>
    simp only [Bool.false_eq_true, if_false]
    have ensured : Meets (ensureDirectory task.twin) { fileSystem := fs }
        (fun isNew after => isNew = true ∧ Prepared task fs after)
        (fun after => after.fileSystem = (fs.createDirectories task.twin).1) := by
      refine meets_ensureDirectory rfl (fun succeeded => ⟨rfl, rfl, by simp [dry], fun _ => ?_⟩) rfl
      exact ⟨Prod.ext rfl succeeded, rfl⟩
    -- Both errors that the handler gives are raised after the attempt, whose traces they leave.
    refine Meets.bind (ensured.tryCatch fun error after raised => ?_) ?_
    · split
      · exact meets_throw ⟨trivial, raised⟩
      · exact meets_throw ⟨trivial, raised⟩
    rintro isNew after ⟨rfl, prepared⟩
    exact meets_modify ⟨prepared.records, prepared.rehearsed, prepared.created⟩

end Pass

/-- What has been checked when a pass begins to walk. -/
theorem grounded_of_created {task : Task} {fs : FileSystem} (wellFormed : fs.WellFormed)
    (anchored : fs.Anchored task.twin)
    (replaced : PlainRenamings task.options.renamings)
    (isDirectory : fs.isDirectory task.source = true)
    (apart : fs.overlaps task.source task.twin = false)
    (made : task.options.dryRun = false →
      (fs.createDirectories task.twin).1 ≠ fs ∨ (fs.createDirectories task.twin).2 = .ok ()) :
    Grounded task fs ∧ fs.canonicalize task.source = .ok (task.home fs) := by
  -- The source is a directory, so its path leads somewhere and is canonical there.
  obtain ⟨left, there, leads, standing, found⟩ :=
    exists_canonicalize_of_isDirectory wellFormed isDirectory
  have home_eq : task.home fs = there := prospect_of_leads leads
  rw [← home_eq] at found
  refine ⟨⟨wellFormed, anchored, replaced, home_eq ▸ standing, ⟨left, home_eq ▸ leads⟩, ?_⟩, found⟩
  exact fun real => apart_of_overlaps wellFormed anchored (made real) found apart

/-- A pass that has prepared the root has checked all that a walk takes for granted. -/
theorem grounded_of_prepared {task : Task} {fs : FileSystem} {state : State}
    (wellFormed : fs.WellFormed) (anchored : fs.Anchored task.twin)
    (replaced : PlainRenamings task.options.renamings)
    (isDirectory : fs.isDirectory task.source = true)
    (apart : fs.overlaps task.source task.twin = false)
    (prepared : Pass.Prepared task fs state) :
    Grounded task fs ∧ fs.canonicalize task.source = .ok (task.home fs) := by
  refine grounded_of_created wellFormed anchored replaced isDirectory apart fun real => ?_
  rw [(prepared.created real).1]
  exact .inr rfl

theorem sound_of_prepared {task : Task} {fs : FileSystem} {state : State}
    (grounded : Grounded task fs) (prepared : Pass.Prepared task fs state) :
    Sound task fs state := by
  cases dry : task.options.dryRun with
  | true =>
    have same := prepared.rehearsed dry
    refine ⟨?_, fun _ => same, by simp [dry], by simp [dry]⟩
    rw [same]
    exact .refl grounded.wellFormed
  | false =>
    obtain ⟨created, known⟩ := prepared.created dry
    have evolves := createDirectories_evolves grounded.wellFormed grounded.anchored
    rw [created] at evolves
    -- All that has been made so far leads down to the root of the twin.
    obtain ⟨directory, leads⟩ :=
      leads_of_createDirectories grounded.wellFormed grounded.anchored created
    refine ⟨evolves.mono fun location object made => ?_, by simp [dry], fun _ => ⟨directory, leads⟩,
      fun _ path member names beneath => ?_⟩
    · obtain ⟨above, rfl⟩ := made
      exact .above above
    · rw [known, List.mem_singleton] at member
      subst member
      rw [← (Path.Beneath.refl _).unique beneath]
      exact directory

end TwinTree
