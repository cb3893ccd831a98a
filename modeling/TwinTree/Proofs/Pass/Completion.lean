import TwinTree.Proofs.Pass.Preparation
import TwinTree.Proofs.Pass.Trace

/-!
# Completed passes

What a pass has done when it succeeds (`exists_completed`): it has toured the source, copied the
files taken from each directory, and reported just that.
-/
namespace TwinTree

open FileSystem

/-- What a pass that fails leaves: no file has changed, or its walk has been interrupted. -/
def Stopped (source twin : Path) (options : Options) (policy : Policy) (fs : FileSystem)
    (after : State) : Prop :=
  Spared { fileSystem := fs } after ∨ ∃ task, Pass.prepare source twin options policy = .ok task ∧
    Grounded task fs ∧ Interrupted task fs { fileSystem := fs } after

/-- A pass that has succeeded. -/
structure Completed (task : Task) (before : FileSystem) (trails : List (List Name))
    (report : Report) (after : State) : Prop where
  grounded : Grounded task before
  found : before.canonicalize task.source = .ok (task.home before)
  tour : Tour task before [] (fun _ => True) trails
  progress : Progress task before trails (trails.flatMap (task.taken before))
    { fileSystem := before } after
  report_eq : report = after.journal.report

namespace Completed

variable {task : Task} {before : FileSystem} {trails : List (List Name)} {report : Report}
  {after : State}

theorem mem_iff (completed : Completed task before trails report after) {trail : List Name} :
    trail ∈ trails ↔ before.get? (task.stand before trail) = some .directory ∧
      ∀ name ∈ trail, task.Enters (Utf8.lossy name) := by
  rw [completed.tour.mem_iff, and_true]
  constructor
  · rintro ⟨_, rfl, standing, entered⟩
    exact ⟨standing, entered⟩
  · rintro ⟨standing, entered⟩
    exact ⟨trail, rfl, standing, entered⟩

theorem records_eq (completed : Completed task before trails report after) :
    report.records = (trails.flatMap (task.taken before)).map task.record := by
  rw [completed.report_eq, completed.progress.records]
  rfl

end Completed

namespace Pass

variable {source twin : Path} {options : Options} {policy : Policy} {fs : FileSystem}

theorem progress_of_prepared {task : Task} {state : State} (grounded : Grounded task fs)
    (prepared : Prepared task fs state) : Progress task fs [[]] [] { fileSystem := fs } state := by
  have sound := sound_of_prepared grounded prepared
  refine .of_kept ⟨sound, ?_, prepared.records⟩ fun real => (sound.root real).1
  cases dry : task.options.dryRun with
  | true =>
    rw [prepared.rehearsed dry]
    exact .refl grounded.wellFormed
  | false =>
    have evolves := createDirectories_evolves grounded.wellFormed grounded.anchored
    rwa [(prepared.created dry).1] at evolves

theorem prepareRoot_spares {state : State} {dryRun : Bool}
    (wellFormed : state.fileSystem.WellFormed) :
    Meets (prepareRoot twin dryRun) state (fun _ _ => True) (Spared state) := by
  have ensured : Meets (ensureDirectory twin) state (fun _ _ => True) (Spared state) :=
    (ensureDirectory_spares wellFormed).mono (fun _ _ _ => trivial) fun _ => id
  unfold prepareRoot
  split
  next => exact meets_pure trivial
  next =>
    -- The handler raises an error of its own, where the one it catches was raised.
    refine Meets.bind (ensured.tryCatch fun error after spared => ?_) fun isNew after _ => ?_
    · split <;> exact meets_throw spared
    · split
      next => exact meets_modify trivial
      next => exact meets_pure trivial

theorem runTraced_meets (wellFormed : fs.WellFormed) (descends : .parent ∉ twin.components)
    (replaced : PlainRenamings options.renamings) (undisturbed : Undisturbed fs source twin) :
    Meets (runTraced source twin options policy) { fileSystem := fs }
      (fun result after => ∃ task trails, prepare source twin options policy = .ok task ∧
        result.1 = trails.map source.extend ∧ Completed task fs trails result.2 after)
      (Stopped source twin options policy fs) := by
  unfold runTraced
  refine Meets.bind (checkArguments_meets (.inl (.refl wellFormed))) ?_
  rintro _ _ ⟨rfl, isDirectory, apart⟩
  cases prepared : prepare source twin options policy with
  | error reason => exact meets_throw (.inl (.refl wellFormed))
  | ok task =>
    obtain ⟨rfl, rfl, rfl, rfl, _⟩ := eq_of_prepare prepared
    refine Meets.bind (((prepareRoot_spares wellFormed).and prepareRoot_meets).mono (fun _ _ => id)
      fun _ failed => .inl failed.1) ?_
    rintro _ ready ⟨_, prepared'⟩
    obtain ⟨grounded, found⟩ :=
      grounded_of_prepared wellFormed (anchored_of_descends wellFormed descends) replaced
        isDirectory apart prepared'
    have first := progress_of_prepared grounded prepared'
    have walked : Meets (walkTraced task depthLimit (task.source.extend [])) ready
        (Visited task fs [] ready) (Interrupted task fs ready) :=
      walkTraced_meets grounded undisturbed first.sound grounded.source
    refine Meets.bind (walked.mono (fun _ _ => id) fun _ interrupted => ?_) ?_
    · exact .inr ⟨task, prepared, grounded, interrupted.behind first (by simp)⟩
    rintro _ after ⟨trails, rfl, tour, progress⟩
    refine ⟨task, trails, rfl, rfl, grounded, found, tour, ?_, rfl⟩
    -- The root is the first directory of the tour.
    have root : [] ∈ trails :=
      (tour.mem_iff []).2 ⟨⟨[], rfl, grounded.source, by simp⟩, trivial⟩
    refine (first.trans progress).of_subset (List.subset_append_right ..) ?_
    exact List.cons_subset.2 ⟨root, List.Subset.refl _⟩

end Pass

variable {source twin : Path} {options : Options} {policy : Policy} {fs : FileSystem}
  {report : Report}

theorem exists_completed (wellFormed : fs.WellFormed) (descends : .parent ∉ twin.components)
    (replaced : PlainRenamings options.renamings) (undisturbed : Undisturbed fs source twin)
    (succeeded : (deriveWith fs source twin options policy).result = .ok report) :
    ∃ task trails after, Pass.prepare source twin options policy = .ok task ∧
      EStateM.run (Pass.runTraced source twin options policy) { fileSystem := fs } =
        .ok (trails.map source.extend, report) after ∧
      (deriveWith fs source twin options policy).fileSystem = after.fileSystem ∧
      Completed task fs trails report after := by
  have traced : Pass.Meets (Pass.runTraced source twin options policy) { fileSystem := fs }
      (fun result after => ∃ task trails, Pass.prepare source twin options policy = .ok task ∧
        result.1 = trails.map source.extend ∧ Completed task fs trails result.2 after)
      (Stopped source twin options policy fs) :=
    Pass.runTraced_meets wellFormed descends replaced undisturbed
  unfold Pass.Meets at traced
  unfold deriveWith at succeeded ⊢
  -- The pass is the traced one without its trace, so the two end alike.
  rw [Pass.run_eq] at succeeded ⊢
  cases run : EStateM.run (Pass.runTraced source twin options policy) { fileSystem := fs } with
  | error error after =>
    simp only [EStateM.run] at run
    simp [EStateM.run, Bind.bind, EStateM.bind, run] at succeeded
  | ok result after =>
    rw [run] at traced
    obtain ⟨task, trails, prepared, visited_eq, completed⟩ := traced
    obtain ⟨visited, reported⟩ := result
    simp only [EStateM.run] at run
    simp only [EStateM.run, Bind.bind, EStateM.bind, run, pure, EStateM.pure] at succeeded ⊢
    cases succeeded
    cases visited_eq
    exact ⟨task, trails, after, prepared, rfl, rfl, completed⟩

theorem smallTree_succeeds : ∃ report,
    (deriveWith smallTree (.ofString "s") (.ofString "d") {} fun _ => true).result =
      .ok report := by
  have succeeds :
      (deriveWith smallTree (.ofString "s") (.ofString "d") {} fun _ => true).result.isOk =
        true := by
    decide +kernel
  cases ended : (deriveWith smallTree (.ofString "s") (.ofString "d") {} fun _ => true).result with
  | ok report => exact ⟨report, rfl⟩
  | error error =>
    rw [ended] at succeeds
    cases succeeds

end TwinTree
