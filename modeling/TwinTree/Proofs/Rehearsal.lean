import TwinTree.Command.Run
import TwinTree.Proofs.FileSystem.Foresight
import TwinTree.Proofs.Pass.Growth
import TwinTree.Proofs.Pass.System

/-!
# Dry runs

A dry run changes nothing, however it ends (`dry_run_changes_nothing`). It goes along with the real
run that it stands for: it reads the same, and its checks, made on a file system in which nothing
has been written, pass where those of the real run do. So it foretells what a real run that succeeds
reports (`dry_run_foretells`), unless one file has names in both trees (`dry_run_misled`).
-/
namespace TwinTree

open FileSystem

/-- The report of a dry run, told from that of the real one. -/
def Report.rehearsed (report : Report) : Report :=
  { report with copied := 0, stripped := 0, skipped := report.skipped + report.copied }

/-- How the state of a dry run stands to that of the real run it goes along with. -/
structure Rehearses (state state' : State) : Prop where
  known : state'.materialized = state.materialized
  report : state'.journal.report = state.journal.report.rehearsed
  counted : state.journal.report.copied = state.journal.report.records.length

theorem Rehearses.routine {state state' : State} {change : Journal → Journal}
    (routine : Journal.Routine change) (rehearses : Rehearses state state') :
    Rehearses { state with journal := change state.journal }
      { state' with journal := change state'.journal } := by
  obtain ⟨known, report, counted⟩ := rehearses
  cases routine with
  | scanned => exact ⟨known, congrArg Report.addScanned report, counted⟩
  | matched => exact ⟨known, congrArg Report.addMatched report, counted⟩
  -- The dry run has skipped what the real one has copied, so its counter is ahead by that much.
  | skipped =>
    refine ⟨known, (congrArg Report.addSkipped report).trans ?_, counted⟩
    simp [Report.addSkipped, Report.rehearsed, Journal.count, Nat.add_right_comm]
  | note => exact ⟨known, report, counted⟩
  | warn warning => exact ⟨known, congrArg (Report.addWarning · warning) report, counted⟩

namespace Pass

variable {task : Task} {before fs : FileSystem} {state state' : State} {path source twin : Path}
  {options : Options} {policy : Policy}

/-! ### Step by step -/

theorem Grounded.rehearsal (grounded : Grounded task before) :
    Grounded (task.inMode true) before :=
  ⟨grounded.wellFormed, grounded.anchored, grounded.replaced, grounded.source, grounded.leads,
    fun real => by cases real⟩

/-- Where the real run makes a directory, the dry run only counts it. -/
theorem follows_materialize_rehearsed (real : task.options.dryRun = false)
    (inStep : InStep task true before Rehearses state state') :
    Follows (materialize task path) (materialize (task.inMode true) path) state state'
      fun _ after _ after' => Rehearses after after' := by
  obtain ⟨sound, sound', known, report, counted⟩ := inStep
  unfold materialize
  apply follows_isMaterialized_bind
  rw [known]
  split
  next => exact follows_pure ⟨known, report, counted⟩
  next unknown =>
    -- Nothing that the real run has made stands in the way of the check on what there was before.
    refine follows_requireSafe_bind (fun safe => ?_) fun _ => ?_
    · rw [sound'.rehearsed rfl]
      exact checkSafe_of_evolves sound.evolves safe
    rw [if_neg (by simp [real]), if_pos (Task.dryRun_inMode task true)]
    -- The real run makes the directory; all that counts of it here is what it notes.
    have made : Meets (do
        if ← ensureDirectory path then
          note .debug ("Materialized " ++ path.display)
          count .addDirectory) state
        (fun _ after => after.materialized = state.materialized ++ [path] ∧
          after.journal.report = state.journal.report.addDirectory) fun _ => True := by
      refine (ensureDirectory_meets (by simpa using unknown) trivial).bind ?_
      rintro _ after ⟨rfl, _, materialized, journal⟩
      apply meets_modify_bind
      exact meets_modify ⟨materialized, by rw [← journal]; rfl⟩
    refine follows_of_run made fun _ after ⟨materialized, counts⟩ => ⟨(), _, rfl, ?_, ?_, ?_⟩
    · rw [materialized, ← known]
    · rw [counts]
      exact congrArg Report.addDirectory report
    · rw [counts]
      exact counted

/-- Where the real run writes a copy, the dry run only records it. -/
theorem follows_finish_rehearsed {file : SourceFile} {content : List UInt8}
    (real : task.options.dryRun = false) (inStep : InStep task true before Rehearses state state') :
    Follows
      (finish task (task.path file) (task.record file).destination content
        (task.record file).stripped)
      (finish (task.inMode true) (task.path file) (task.record file).destination content
        (task.record file).stripped) state state'
      fun _ after _ after' => Rehearses after after' := by
  obtain ⟨_, _, known, report, counted⟩ := inStep
  rw [finish_of_real real, finish_of_dry (Task.dryRun_inMode task true)]
  apply follows_modify_bind
  -- Writing touches neither the report nor what is known, so one note on each side is left.
  have written : ∀ (moment : State) (record : Record), Meets (do
      write (task.path file) (task.record file).destination content
      count (·.addCopied record)) moment
      (fun _ after => after.materialized = moment.materialized ∧
        after.journal.report = moment.journal.report.addCopied record) fun _ => True := by
    intro moment record
    refine write_meets_journal.bind fun _ after ⟨journal, materialized⟩ => ?_
    exact meets_modify ⟨materialized, by rw [← journal]; rfl⟩
  refine follows_of_run (written _ _) fun _ after ⟨materialized, counts⟩ =>
    ⟨(), _, rfl, ?_, ?_, ?_⟩
  · rw [materialized, ← known]
  · rw [counts]
    exact congrArg (Report.addPlanned · (task.record file)) report
  · rw [counts]
    simp only [Report.addCopied, List.length_append, List.length_singleton]
    exact congrArg (· + 1) counted

/-- A dry run goes along with a real one. -/
theorem lockstep_rehearses (grounded : Grounded task before)
    (undisturbed : Undisturbed before task.source task.twin) (real : task.options.dryRun = false) :
    Lockstep task true before Rehearses where
  grounded := grounded
  grounded' := Grounded.rehearsal grounded
  undisturbed := undisturbed
  routine := Rehearses.routine
  materialize := fun inStep _ _ _ => follows_materialize_rehearsed real inStep
  safe := by
    intro state state' file inStep finishes
    rw [inStep.behind.rehearsed rfl]
    exact checkSafe_of_evolves inStep.ahead.evolves finishes.safe
  finish := fun inStep _ _ => follows_finish_rehearsed real inStep

/-! ### From beginning to end -/

/-- A dry run accounts for the root of the twin when it comes to it in its walk. -/
theorem run_materialize_root (dry : task.options.dryRun = true) (twin_eq : path = task.twin) :
    EStateM.run (materialize task path) { fileSystem := fs } =
      .ok () { fileSystem := fs
               journal := ({} : Journal).count .addDirectory
               materialized := [path] } := by
  -- There is nothing beneath the root on the way to it, so the check has nothing to look at.
  have safe : fs.checkSafe path task.twin = .ok () := by
    obtain ⟨inner, found, components_eq, _⟩ :=
      Path.exists_stripStart? (Path.Beneath.refl (fs.absolutize path)).components_eq
    rw [checkSafe, ← twin_eq, found]
    simp only [components_eq]
    rfl
  have checked : EStateM.run (requireSafe task path) { fileSystem := fs } =
      .ok () { fileSystem := fs } := by
    unfold requireSafe
    refine run_bind_eq_ok_iff.2 ⟨fs, { fileSystem := fs }, rfl, ?_⟩
    rw [safe]
    rfl
  unfold materialize
  refine run_bind_eq_ok_iff.2 ⟨false, { fileSystem := fs }, rfl, ?_⟩
  refine run_bind_eq_ok_iff.2 ⟨(), { fileSystem := fs }, checked, ?_⟩
  rw [if_pos dry]
  rfl

theorem prepare_inMode (source twin : Path) (options : Options) (policy : Policy) (dryRun : Bool) :
    prepare source twin { options with dryRun := dryRun } policy =
      (prepare source twin options policy).map (·.inMode dryRun) := by
  unfold prepare
  cases Exclusions.parse? options.patternMode options.excludedDirectories with
  | error => rfl
  | ok =>
    cases Exclusions.parse? options.patternMode options.excludedFiles with
    | error => rfl
    | ok => rfl

/-- Where a real run succeeds, a dry run goes along with it to the end. -/
theorem run_follows (wellFormed : fs.WellFormed) (descends : .parent ∉ twin.components)
    (replaced : PlainRenamings options.renamings) (undisturbed : Undisturbed fs source twin)
    (real : options.dryRun = false) :
    Follows (run source twin options policy)
      (run source twin { options with dryRun := true } policy)
      { fileSystem := fs } { fileSystem := fs }
      fun report _ plan after' => plan = report.rehearsed ∧
        report.copied = report.records.length ∧ after'.fileSystem = fs := by
  intro report after ended
  obtain ⟨rfl, task, checked, ready, stages⟩ := run_eq_ok_iff.1 ended
  obtain ⟨rfl, isDirectory, apart, _⟩ := run_checkArguments_eq_ok_iff.1 stages.checked
  obtain ⟨rfl, rfl, rfl, rfl, _⟩ := eq_of_prepare stages.prepared
  have prepared := prepareRoot_meets.of_run stages.rooted
  obtain ⟨_, known, journal⟩ := prepareRoot_meets_journal.of_run (real ▸ stages.rooted)
  obtain ⟨grounded, _⟩ :=
    grounded_of_prepared wellFormed (anchored_of_descends wellFormed descends) replaced isDirectory
      apart prepared
  have sound := sound_of_prepared grounded prepared
  have sound' : Sound (task.inMode true) fs { fileSystem := fs } :=
    sound_of_prepared (Grounded.rehearsal grounded) ⟨rfl, fun _ => rfl, fun real => by cases real⟩
  -- The real run has made the root already; the dry run comes to it in its walk.
  have begins : Follows
      (materialize task (Placement.directory task.source task.twin (task.source.extend [])))
      (materialize (task.inMode true)
        (Placement.directory task.source task.twin (task.source.extend []))) ready
      { fileSystem := fs } fun _ after _ after' => Rehearses after after' := by
    have root_eq : Placement.directory task.source task.twin (task.source.extend []) = task.twin :=
      Placement.directory_self ..
    rw [root_eq]
    intro _ _ skipped
    cases (run_materialize_of_known ⟨_, by simp [known], rfl⟩).symm.trans skipped
    refine ⟨(), _, run_materialize_root rfl rfl, known.symm, ?_, ?_⟩ <;> rw [journal] <;> rfl
  have visits : task.Visits fs [] := ⟨grounded.source, by simp⟩
  obtain ⟨_, after', walked, inStep, _⟩ := follows_walk
    (lockstep_rehearses grounded undisturbed real) visits sound sound' begins () after stages.walked
  have stages' : Stages fs task.source task.twin { task.options with dryRun := true } task.policy
      (task.inMode true) { fileSystem := fs } { fileSystem := fs } after' :=
    { checked := stages.checked
      prepared := by rw [prepare_inMode, stages.prepared]; rfl
      rooted := rfl
      walked := walked }
  refine ⟨after'.journal.report, after', run_eq_ok_iff.2 ⟨rfl, _, _, _, stages'⟩, ?_⟩
  exact ⟨inStep.related.report, inStep.related.counted, inStep.behind.rehearsed rfl⟩

end Pass

/-- What a dry run says of the real one: the same files and directories, under the counters of a
run that has written nothing. -/
structure Report.Foretells (plan report : Report) : Prop where
  records : plan.records = report.records
  warnings : plan.warnings = report.warnings
  scanned : plan.scanned = report.scanned
  matched : plan.matched = report.matched
  directories : plan.directories = report.directories
  copied : plan.copied = 0
  stripped : plan.stripped = 0
  skipped : plan.skipped = report.skipped + report.copied
  announced : plan.records.length = report.copied

/-- The closing line names the files that were copied, or that would have been. -/
theorem Command.exists_closing_eq (arguments : Command.Arguments) (report : Report) :
    ∃ behind, Command.closing arguments report =
      (if arguments.dryRun then "\nDry run: would copy " ++ report.records.length.repr
        else "\nCopied " ++ report.copied.repr) ++ " source files from " ++ behind := by
  refine ⟨arguments.toOptions.vocabulary.displayName ++
    (".\n" ++ if arguments.verbosity = 0 then "" else report.display ++ "\n"), ?_⟩
  unfold closing
  cases arguments.dryRun <;> by_cases terse : arguments.verbosity = 0 <;>
    simp [terse, String.append_assoc]

/-- Where a real run succeeds, the dry run on the same file system succeeds too, foretells its
report and changes nothing; the closing lines of the command name the same number of files. -/
theorem dry_run_foretells {fs : FileSystem} {source twin : Path} {options : Options}
    {policy : Policy} {report : Report} (wellFormed : fs.WellFormed)
    (descends : .parent ∉ twin.components) (replaced : PlainRenamings options.renamings)
    (undisturbed : Undisturbed fs source twin) (real : options.dryRun = false)
    (succeeded : (deriveWith fs source twin options policy).result = .ok report) :
    ∃ plan, (deriveWith fs source twin { options with dryRun := true } policy).result = .ok plan ∧
      plan.Foretells report ∧
      (deriveWith fs source twin { options with dryRun := true } policy).fileSystem = fs ∧
      ∀ (arguments : Command.Arguments) (specification : Option String),
        arguments.sourcePath = source → arguments.destinationPath = twin →
        arguments.toOptions = options → policy = .ofSuffixes options.strippedSuffixes →
        ∃ behind behind',
          (Command.runPass { arguments with dryRun := true } specification fs).output =
            "\nDry run: would copy " ++ report.copied.repr ++ " source files from " ++ behind ∧
          (Command.runPass arguments specification fs).output =
            "\nCopied " ++ report.copied.repr ++ " source files from " ++ behind' := by
  obtain ⟨after, ended⟩ := exists_run_of_deriveWith succeeded
  obtain ⟨plan, after', ended', rfl, counted, same⟩ :=
    Pass.run_follows wellFormed descends replaced undisturbed real report after ended
  have planned := deriveWith_of_run ended'
  -- The counters are told from the real report by definition, except how many copies there are.
  refine ⟨report.rehearsed, ?_, ⟨rfl, rfl, rfl, rfl, rfl, rfl, rfl, rfl, counted.symm⟩, ?_, ?_⟩
  · rw [planned]
  · rw [planned]
    exact same
  · rintro arguments specification rfl rfl rfl rfl
    have notDry : arguments.dryRun = false := real
    obtain ⟨behind, shown⟩ :=
      Command.exists_closing_eq { arguments with dryRun := true } report.rehearsed
    obtain ⟨behind', shown'⟩ := Command.exists_closing_eq arguments report
    refine ⟨behind, behind', ?_, ?_⟩
    · have outcome : (derive fs { arguments with dryRun := true }.sourcePath
          { arguments with dryRun := true }.destinationPath
          { arguments with dryRun := true }.toOptions).result = .ok report.rehearsed := by
        rw [derive]
        exact congrArg Outcome.result planned
      rw [Command.runPass]
      simp only [outcome, shown, if_true]
      rw [counted]
      rfl
    · have outcome : (derive fs arguments.sourcePath arguments.destinationPath
          arguments.toOptions).result = .ok report := succeeded
      rw [Command.runPass]
      simp only [outcome, shown', notDry]
      rfl

theorem dry_run_foretells_smallTree : ∃ report,
    (deriveWith smallTree (.ofString "s") (.ofString "d") {} fun _ => true).result = .ok report ∧
    ∃ plan, (deriveWith smallTree (.ofString "s") (.ofString "d") { dryRun := true }
      fun _ => true).result = .ok plan ∧ plan.Foretells report := by
  obtain ⟨report, succeeded⟩ := smallTree_succeeds
  obtain ⟨plan, planned, foretells, _⟩ := dry_run_foretells (by decide) (by decide) (by decide)
    undisturbed_smallTree rfl succeeded
  exact ⟨report, succeeded, plan, planned, foretells⟩

/-- A real run may write the text that it reads next, where a file of the source has a name in the
twin. A dry run writes nothing and finds no text. -/
theorem dry_run_misled : linkedTree.WellFormed ∧ .parent ∉ (Path.ofString "d").components ∧
    PlainRenamings ({} : Options).renamings ∧
    Undisturbed linkedTree (.ofString "s") (.ofString "d") ∧
    (deriveIn twoNames linkedTree (.ofString "s") (.ofString "d") {}
      fun _ => true).result.toOption.map (·.copied) = some 2 ∧
    (deriveIn twoNames linkedTree (.ofString "s") (.ofString "d") { dryRun := true }
        fun _ => true).result =
      .error (.fileNotRead (.ofString "s/b.h") "stream did not contain valid UTF-8") := by
  refine ⟨by decide, by decide, by decide, undisturbed_of_not_isLink (by decide), ?_, ?_⟩
  all_goals decide +kernel

/-- Whether a dry run succeeds or fails, and whatever it is given, every file is as it was. -/
theorem dry_run_changes_nothing {fs : FileSystem} {source twin : Path} {options : Options}
    {policy : Policy} (dry : options.dryRun = true) :
    (deriveWith fs source twin options policy).fileSystem = fs := by
  have grows : Pass.Meets (Pass.run source twin options policy) { fileSystem := fs }
      (fun _ after => Grown options.dryRun { fileSystem := fs } after)
      (Grown options.dryRun { fileSystem := fs }) := Pass.run_grows _
  unfold deriveWith
  split
  next report after ended => exact (grows.of_run ended).files dry
  next error after ended => exact (grows.of_run_error ended).files dry

theorem dry_run_changes_nothing_smallTree :
    (deriveWith smallTree (.ofString "s") (.ofString "d") { dryRun := true }
      fun _ => true).fileSystem = smallTree :=
  dry_run_changes_nothing rfl

end TwinTree
