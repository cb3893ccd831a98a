import Mathlib.Data.List.Dedup
import TwinTree.Proofs.Pass.Charting

/-!
# What a pass knows of the twin

At every moment of a walk the report counts the known directories, and in a real pass they are
there, so nothing is taken for a directory that is none (`directories_accounted`). Where every
renaming gives a single name, they are the root of the twin and the places of the entered
directories. A renaming that gives none can make the empty path known, which is taken for the
working directory but is no directory that could be shown (`empty_path_known`).
-/
namespace TwinTree

open FileSystem

namespace Pass

/-- All that comes before the walk. It gives the task of the pass. -/
def makeReady (source twin : Path) (options : Options) (policy : Policy) : Pass Task := do
  checkArguments source twin
  match prepare source twin options policy with
  | .error reason => throw (.invalidPattern ("Invalid exclude pattern: " ++ reason))
  | .ok task =>
    prepareRoot twin options.dryRun
    return task

variable {fs : FileSystem} {source twin path : Path} {options : Options} {policy : Policy}
  {task : Task} {state after : State}

theorem run_eq_makeReady : run source twin options policy = (do
    let task ← makeReady source twin options policy
    walk task depthLimit source
    return (← get).journal.report) := by
  unfold run makeReady
  cases prepare source twin options policy with
  | error => simp only [bind_assoc]; rfl
  | ok => simp

/-- A walk begins with the root of the twin made and counted, or in a dry run with nothing. -/
theorem makeReady_accounted (wellFormed : fs.WellFormed) :
    Meets (makeReady source twin options policy) { fileSystem := fs }
      (fun task ready => prepare source twin options policy = .ok task ∧ Accounted task [] ready)
      fun _ => True := by
  unfold makeReady
  refine (checkArguments_meets trivial).bind ?_
  rintro _ _ ⟨rfl, _, _⟩
  cases prepared : prepare source twin options policy with
  | error reason => exact meets_throw trivial
  | ok task =>
    obtain ⟨rfl, rfl, rfl, rfl, _⟩ := eq_of_prepare prepared
    cases dry : task.options.dryRun with
    | true =>
      refine meets_pure ⟨rfl, ⟨wellFormed.orderly, rfl, by simp, by simp⟩, fun _ => ?_⟩
      exact ⟨by simp, by simp, by simp [State.Knows, dry]⟩
    | false =>
      refine prepareRoot_meets_journal.bind ?_
      rintro _ ready ⟨created, known, journal⟩
      have extended := createDirectories_extends wellFormed.orderly task.twin
      rw [created] at extended
      have counted : ready.journal.report.directories = 1 := by rw [journal]; rfl
      refine meets_pure ⟨rfl, ⟨extended.orderly, ?_, ?_, ?_⟩, fun _ => ⟨by simp, by simp, ?_⟩⟩
      · rw [counted, known]
        rfl
      · simp [known]
      · simpa [known] using fun _ nonempty => isDirectory_of_createDirectories nonempty created
      · exact fun path => by simpa [State.Knows, known, dry] using ⟨Eq.symm, Eq.symm⟩

/-! ### The short cut -/

/-- What is known leads to a directory, however it is spelled. -/
theorem leadsToDirectory_of_knows (tallied : Tallied task state)
    (real : task.options.dryRun = false) (nonempty : path.bytes ≠ []) (knows : state.Knows path) :
    state.fileSystem.LeadsToDirectory path := by
  obtain ⟨known, member, same⟩ := knows
  have directory := tallied.standing real known member (mt same.bytes_eq_nil_iff.1 nonempty)
  exact leadsToDirectory_respelled (Eq.symm same) directory

theorem run_ensureDirectory_of_known (knows : state.Knows path) :
    EStateM.run (ensureDirectory path) state = .ok false state := by
  unfold ensureDirectory
  refine run_bind_eq_ok_iff.2 ⟨true, state, ?_, rfl⟩
  rw [← isMaterialized_iff.2 knows]
  rfl

theorem leadsToDirectory_of_ensureDirectory {isNew : Bool} (tallied : Tallied task state)
    (real : task.options.dryRun = false) (nonempty : path.bytes ≠ [])
    (ended : EStateM.run (ensureDirectory path) state = .ok isNew after) :
    after.fileSystem.LeadsToDirectory path := by
  by_cases known : state.Knows path
  · rw [run_ensureDirectory_of_known known] at ended
    cases ended
    exact leadsToDirectory_of_knows tallied real nonempty known
  · have unlisted := Bool.eq_false_iff.2 (mt isMaterialized_iff.1 known)
    have made : Meets (ensureDirectory path) state _ fun _ => True :=
      ensureDirectory_meets unlisted trivial
    obtain ⟨_, created, _⟩ := made.of_run ended
    exact leadsToDirectory_respelled rfl (isDirectory_of_createDirectories nonempty created)

theorem leadsToDirectory_of_materialize (tallied : Tallied task state)
    (real : task.options.dryRun = false) (nonempty : path.bytes ≠ [])
    (ended : EStateM.run (materialize task path) state = .ok () after) :
    after.fileSystem.LeadsToDirectory path := by
  obtain ⟨tallied', knows_iff⟩ := (materialize_tallied tallied).of_run ended
  exact leadsToDirectory_of_knows tallied' real nonempty ((knows_iff path).2 (.inr rfl))

end Pass

variable {fs : FileSystem} {source twin : Path} {options : Options} {policy : Policy} {task : Task}
  {begun : State}

/-- The places of directories are beneath the twin, so they are not empty unless it is. -/
theorem Charted.nonempty {entered : List Path} {state : State}
    (charted : Charted task entered state) (nonempty : task.twin.bytes ≠ []) :
    ∀ path ∈ state.materialized, path.bytes ≠ [] := by
  intro path member
  have components : ∀ names : List Name, task.twin.components ++ names.map .name ≠ [] := fun _ =>
    List.append_ne_nil_of_left_ne_nil (mt Path.components_eq_nil_iff.1 nonempty) _
  refine mt Path.components_eq_nil_iff.2 ?_
  rcases (charted.knows_iff path).1 ⟨path, member, rfl⟩ with ⟨_, same⟩ | ⟨directory, within, same⟩
  · rw [same]
    simpa using components []
  · obtain ⟨names, beneath⟩ := charted.beneath directory within
    rw [same, (Placement.beneath_directory beneath).components_eq]
    exact components names

/-- At every moment of a walk, where accounting for a directory is one step, the report counts the
different directories that are known. In a real pass each of them is a directory, unless it is the
empty path, so nothing but a directory is accounted for with success, whether it is made or taken to
exist. Where every renaming gives a single name, the known directories are the root of the twin and
the places of the directories entered by then, and accounting for the directory that holds the place
of a file changes nothing. A dry run knows none before it has entered the source. -/
theorem directories_accounted (wellFormed : fs.WellFormed)
    (begins : EStateM.run (Pass.makeReady source twin options policy) { fileSystem := fs } =
      .ok task begun) :
    (Pass.walkCourse task Pass.depthLimit source).run = Pass.walk task Pass.depthLimit source ∧
    ∀ (entered : List Path) (state : State),
      (Pass.walkCourse task Pass.depthLimit source).Reaches begun entered state →
      state.journal.report.directories =
        (state.materialized.map Path.components).dedup.length ∧
      (options.dryRun = false →
        (∀ path ∈ state.materialized, path.bytes ≠ [] →
          state.fileSystem.isDirectory path = true) ∧
        ∀ (path : Path) (after : State), path.bytes ≠ [] →
          (EStateM.run (Pass.materialize task path) state = .ok () after ∨
            ∃ isNew, EStateM.run (Pass.ensureDirectory path) state = .ok isNew after) →
          after.fileSystem.LeadsToDirectory path) ∧
      (PlainRenamings options.renamings →
        (twin.bytes ≠ [] → ∀ path ∈ state.materialized, path.bytes ≠ []) ∧
        (options.dryRun = true → entered = [] → state.materialized = []) ∧
        (options.dryRun = false ∨ entered ≠ [] → ∀ path, state.Knows path ↔
          path.Same twin ∨
            ∃ directory ∈ entered, path.Same (Placement.directory source twin directory)) ∧
        ∀ directory ∈ entered, ∀ name, IsPlain name →
          ∃ parent, (Placement.file source twin options.renamings
              (directory.join ⟨name⟩)).parent? = some parent ∧
            EStateM.run (Pass.materialize task parent) state = .ok () state) := by
  refine ⟨Pass.run_walkCourse task _ source, fun entered state reaches => ?_⟩
  obtain ⟨prepared, started⟩ := (Pass.makeReady_accounted wellFormed).of_run begins
  obtain ⟨rfl, rfl, rfl, rfl, _⟩ := Pass.eq_of_prepare prepared
  have keeps : (Pass.walkCourse task Pass.depthLimit task.source).Keeps (Accounted task) [] begun :=
    Pass.walkCourse_keeps (.refl task.source) (.inl rfl) started
  obtain ⟨tallied, charted⟩ : Accounted task entered state := keeps.holds reaches
  refine ⟨?_, fun real => ⟨tallied.standing real, ?_⟩, fun replaced => ?_⟩
  · rw [List.dedup_eq_self.2 tallied.distinct, List.length_map, tallied.counted]
  · rintro path after nonempty (ended | ⟨isNew, ended⟩)
    · exact Pass.leadsToDirectory_of_materialize tallied real nonempty ended
    · exact Pass.leadsToDirectory_of_ensureDirectory tallied real nonempty ended
  have charted := charted replaced
  refine ⟨charted.nonempty, ?_, ?_, fun directory member name plain => ?_⟩
  · rintro dry rfl
    refine List.eq_nil_iff_forall_not_mem.2 fun path member => ?_
    simpa [dry] using (charted.knows_iff path).1 ⟨path, member, rfl⟩
  · intro begun path
    rw [charted.knows_iff]
    -- In a dry run the root of the twin is known as the place of the source.
    rcases begun with real | some_entered
    · simp [real]
    · constructor
      · exact Or.imp_left And.right
      · rintro (same | placed)
        · refine .inr ⟨task.source, charted.source some_entered, ?_⟩
          rwa [Placement.directory_self]
        · exact .inr placed
  · obtain ⟨names, beneath⟩ := charted.beneath directory member
    obtain ⟨⟨parent, found, _⟩, _⟩ :=
      @Placement.exists_parent?_file_same _ task.twin _ _ _ _ replaced beneath plain
    exact ⟨parent, found,
      Pass.run_materialize_of_known (charted.knows_parent replaced member plain found)⟩

/-- At the end of a pass the twin is known and counted. -/
theorem directories_accounted_smallTree : smallTree.WellFormed ∧ ∃ task begun entered state,
    EStateM.run (Pass.makeReady (.ofString "s") (.ofString "d") {} fun _ => true)
      { fileSystem := smallTree } = .ok task begun ∧
    (Pass.walkCourse task Pass.depthLimit (.ofString "s")).Reaches begun entered state ∧
    state.journal.report.directories =
      (state.materialized.map Path.components).dedup.length ∧
    state.Knows (.ofString "d") ∧
    ∀ path ∈ state.materialized, path.bytes ≠ [] ∧ state.fileSystem.isDirectory path = true := by
  have wellFormed : smallTree.WellFormed := by decide
  refine ⟨wellFormed, ?_⟩
  obtain ⟨report, succeeded⟩ := smallTree_succeeds
  obtain ⟨after, ended⟩ := exists_run_of_deriveWith succeeded
  rw [Pass.run_eq_makeReady] at ended
  obtain ⟨task, begun, begins, walked⟩ := Pass.run_bind_eq_ok_iff.1 ended
  obtain ⟨_, state, walked, _⟩ := Pass.run_bind_eq_ok_iff.1 walked
  obtain ⟨same, accounted⟩ := directories_accounted wellFormed begins
  rw [← same] at walked
  obtain ⟨entered, reaches⟩ := (Course.run_reaches _ begun).of_run walked
  obtain ⟨counted, real, single⟩ := accounted entered state reaches
  obtain ⟨nonempty, _, knows_iff, _⟩ := single (by decide)
  have nonempty := nonempty (by decide)
  exact ⟨task, begun, entered, state, begins, reaches, counted,
    (knows_iff (.inl rfl) _).2 (.inl rfl), fun path member =>
      ⟨nonempty path member, (real rfl).1 path member (nonempty path member)⟩⟩

/-- A directory `s` with a header, beside a working directory `w`. -/
def neighbourTree : FileSystem where
  entries :=
    [([[0x73]], .directory),
     ([[0x61, 0x2E, 0x68], [0x73]], .file [] 0o644),
     ([[0x77]], .directory)]
  workingDirectory := [[0x77]]

/-- A renaming that leaves no name puts the header at `./`, whose parent is the empty path. In the
working directory that passes for a place in the twin, so it becomes known and counted, and it is
taken for a directory from then on, though there is no directory that it leads to. -/
theorem empty_path_known :
    let twin := Path.ofString "."
    let options : Options := { renamings := [⟨"a.h", ""⟩] }
    twin.bytes ≠ [] ∧ options.dryRun = false ∧ ∃ task begun entered state,
      EStateM.run (Pass.makeReady (.ofString "../s") twin options fun _ => true)
        { fileSystem := neighbourTree } = .ok task begun ∧
      (Pass.walkCourse task Pass.depthLimit (.ofString "../s")).Reaches begun entered state ∧
      ⟨[]⟩ ∈ state.materialized ∧ state.fileSystem.isDirectory ⟨[]⟩ = false ∧
      EStateM.run (Pass.ensureDirectory ⟨[]⟩) state = .ok false state ∧
      ¬ state.fileSystem.LeadsToDirectory ⟨[]⟩ := by
  intro twin options
  refine ⟨by decide, rfl, ?_⟩
  -- Writing to `./` fails, and the state that the error leaves shows what has become known.
  have ends : (match EStateM.run (Pass.makeReady (.ofString "../s") twin options fun _ => true)
      { fileSystem := neighbourTree } with
    | .ok task begun =>
      match EStateM.run (Pass.walk task Pass.depthLimit (.ofString "../s")) begun with
      | .error _ after => decide (⟨[]⟩ ∈ after.materialized)
      | .ok _ _ => false
    | .error _ _ => false) = true := by
    decide +kernel
  split at ends
  next task begun begins =>
    split at ends
    next error state failed =>
      rw [← Pass.run_walkCourse] at failed
      obtain ⟨entered, reaches⟩ := (Course.run_reaches _ begun).of_run_error failed
      have member : ⟨[]⟩ ∈ state.materialized := of_decide_eq_true ends
      refine ⟨task, begun, entered, state, begins, reaches, member, rfl,
        Pass.run_ensureDirectory_of_known ⟨_, member, rfl⟩, ?_⟩
      rintro ⟨location, found, _⟩
      cases found
    next => cases ends
  next => cases ends

end TwinTree
