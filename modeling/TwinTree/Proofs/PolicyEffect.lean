import TwinTree.Proofs.Enumeration
import TwinTree.Proofs.Pass.Policies
import TwinTree.Proofs.Salvage

/-!
# What a policy changes

Under two policies a pass ends alike (`policy_changes_content_only`): with the same error, or with
reports that differ only in what they say about stripping. What it leaves is the same too, except
that a copy may hold another content where the policies disagree about the directory of the last
file copied there.
-/
namespace TwinTree

open FileSystem

/-- The last record for a place is of a file in a directory about which the policies disagree. -/
def Disputed (fs : FileSystem) (source : Path) (policy policy' : Policy) (records : List Record)
    (location : Location) : Prop :=
  ∃ front record behind names, records = front ++ record :: behind ∧
    fs.prospect record.destination = location ∧
    (∀ later ∈ behind, fs.prospect later.destination ≠ location) ∧
    record.source.LiesIn source names ∧
    policy (source.extend names) ≠ policy' (source.extend names)

variable {task : Task} {policy policy' : Policy} {before fs : FileSystem}
  {state after after' : State}
  {files files' : List SourceFile} {location : Location}

/-! ### Two walks that have ended -/

/-- A file is known by the path under which a walk comes to it. -/
theorem Task.eq_of_path_eq
    (beneath : ∀ file ∈ files,
      Path.Beneath (task.path file) task.source (file.names ++ [file.name]))
    (beneath' : ∀ file ∈ files',
      Path.Beneath (task.path file) task.source (file.names ++ [file.name]))
    (same : files'.map task.path = files.map task.path) : files' = files := by
  induction files generalizing files' with
  | nil => exact List.map_eq_nil_iff.1 same
  | cons file rest ih =>
    obtain ⟨other, rest', rfl, first, others⟩ := List.map_eq_cons_iff.1 same
    rw [List.forall_mem_cons] at beneath beneath'
    rw [ih beneath.2 beneath'.2 others,
      SourceFile.eq_of_components_eq beneath'.1 beneath.1 (congrArg Path.components first)]

theorem Interrupted.of_visited {names : List Name} {visited : List Path}
    (walked : Pass.Visited task before names state visited after) :
    Interrupted task before state after := by
  obtain ⟨trails, _, _, progress⟩ := walked
  exact .of_progress progress Pass.mem_taken_of_mem_flatMap
    ⟨.refl progress.sound.wellFormed, progress.sound⟩

/-- However a walk ends, it has made some progress. -/
theorem Pass.walk_meets {depth : Nat} {names : List Name} (grounded : Grounded task before)
    (undisturbed : Undisturbed before task.source task.twin) (sound : Sound task before state)
    (standing : before.get? (task.stand before names) = some .directory) :
    Meets (walk task depth (task.source.extend names)) state
      (fun _ => Interrupted task before state) (Interrupted task before state) := by
  rw [walk_eq]
  exact (walkTraced_meets grounded undisturbed sound standing).bind
    fun _ _ walked => meets_pure (.of_visited walked)

/-- A file is there that was there before, or a copy has been made in its place. -/
theorem Progress.eq_or_goal {trails : List (List Name)} {middle : State} {content : List UInt8}
    {mode : Nat} (progress : Progress task before trails files { fileSystem := before } middle)
    (spares : SparesFiles middle.fileSystem after.fileSystem)
    (standing : after.fileSystem.get? location = some (.file content mode)) :
    before.get? location = some (.file content mode) ∨
      ∃ file ∈ files, task.goal before file = location := by
  rcases spares location with same | ⟨_, directory⟩
  · rcases progress.changed location with unchanged | ⟨_, directory⟩ | goal
    · exact .inl (unchanged.symm.trans (same.symm.trans standing))
    · cases directory.symm.trans (same.symm.trans standing)
    · exact .inr goal
  · cases directory.symm.trans standing

/-- Where two policies agree, they have adapted a file in one way. -/
theorem Filled.eq_under {file : SourceFile} {made made' : FileSystem}
    (filled : Filled task before file made)
    (filled' : Filled (task.under policy') before file made')
    (agree : task.policy (task.source.extend file.names) =
      policy' (task.source.extend file.names)) :
    made'.get? (task.goal before file) = made.get? (task.goal before file) := by
  obtain ⟨raw, mode, text, shown, decoded, standing⟩ := filled.copied
  obtain ⟨raw', mode', text', shown', decoded', standing'⟩ := filled'.copied
  cases shown.symm.trans shown'
  cases decoded.symm.trans decoded'
  have stripped : ((task.under policy').record file).stripped = (task.record file).stripped :=
    agree.symm
  rw [stripped] at standing'
  exact standing'.trans standing.symm

/-- What two walks have left differs only where the last file copied is in dispute. -/
theorem Interrupted.differ (grounded : Grounded task before)
    (first : Interrupted task before { fileSystem := before } after)
    (second : Interrupted (task.under policy') before { fileSystem := before } after')
    (alike : Matching after after') (location : Location) :
    after'.fileSystem.get? location = after.fileSystem.get? location ∨
      (∃ content content' mode, after.fileSystem.get? location = some (.file content mode) ∧
        after'.fileSystem.get? location = some (.file content' mode)) ∧
      Disputed before task.source task.policy policy' after.journal.report.records location := by
  obtain @⟨trails, files, middle, progress, taken, spared, sound⟩ := first
  obtain @⟨trails', files', middle', progress', taken', spared', sound'⟩ := second
  have wellFormed := grounded.wellFormed
  have beneath : ∀ file ∈ files,
      Path.Beneath (task.path file) task.source (file.names ++ [file.name]) :=
    fun file member => task.beneath_of_mem_taken wellFormed (taken file member)
  have beneath' : ∀ file ∈ files',
      Path.Beneath (task.path file) task.source (file.names ++ [file.name]) :=
    fun file member => (task.under policy').beneath_of_mem_taken wellFormed (taken' file member)
  have records_eq : after.journal.report.records = files.map task.record :=
    spared.records.trans progress.records
  have records_eq' : after'.journal.report.records = files'.map (task.under policy').record :=
    spared'.records.trans progress'.records
  -- Both walks have copied the same files, because their records tell them.
  obtain rfl : files' = files := by
    refine task.eq_of_path_eq beneath beneath' ?_
    have sources := congrArg (·.report.records.map Record.source) alike.journal
    simp only [Journal.withoutStripping, Report.withoutStripping, records_eq, records_eq',
      List.map_map] at sources
    exact sources
  rcases get?_eq_or_of_outline_eq alike.outline location with
    same | ⟨content, content', mode, standing, standing'⟩
  · exact .inl same
  cases dry : task.options.dryRun with
  | true =>
    left
    rw [sound.rehearsed dry, sound'.rehearsed dry]
  | false =>
    have spares := spared.evolves.sparesFiles
    have spares' := spared'.evolves.sparesFiles
    refine or_iff_not_imp_left.2 fun different => ⟨⟨_, _, _, standing, standing'⟩, ?_⟩
    have copied : ∃ file ∈ files', task.goal before file = location := by
      rcases progress.eq_or_goal spares standing with kept | goal
      · rcases progress'.eq_or_goal spares' standing' with kept' | goal
        · exact absurd (standing'.trans (kept'.symm.trans (kept.trans standing.symm))) different
        · exact goal
      · exact goal
    have placed : ∀ file ∈ files',
        before.prospect (task.record file).destination = task.goal before file :=
      fun file member => progress.prospect_file dry member (beneath file member)
    obtain ⟨front, last, behind, split, goal_eq, final⟩ := exists_last_of_mem copied
    have member : last ∈ files' := by simp [split]
    have unmatched : ∀ later ∈ behind, task.goal before later ≠ task.goal before last :=
      fun later within same => final later within (same.trans goal_eq)
    refine ⟨front.map task.record, task.record last, behind.map task.record, last.names, ?_,
      (placed last member).trans goal_eq, ?_, ⟨last.name, (beneath last member).plain, rfl⟩,
      fun agree => different ?_⟩
    · rw [records_eq, split, List.map_append, List.map_cons]
    · intro record within
      obtain ⟨later, isLater, rfl⟩ := List.mem_map.1 within
      rw [placed later (by simp [split, isLater])]
      exact final later isLater
    · have filled := (progress.filled dry front last behind split unmatched).spared spares
      have filled' := (progress'.filled dry front last behind split unmatched).spared spares'
      rw [← goal_eq]
      exact filled.eq_under filled' agree

/-! ### Two passes -/

namespace Pass

variable {source twin : Path} {options : Options}

/-- A pass but for its report. -/
def perform (source twin : Path) (options : Options) (policy : Policy) : Pass Unit := do
  checkArguments source twin
  match prepare source twin options policy with
  | .error reason => throw (.invalidPattern ("Invalid exclude pattern: " ++ reason))
  | .ok task =>
    prepareRoot twin options.dryRun
    walk task depthLimit source

theorem run_eq_perform (source twin : Path) (options : Options) (policy : Policy) :
    run source twin options policy =
      (do perform source twin options policy; return (← get).journal.report) := by
  rw [run, perform]
  simp only [bind_assoc]
  congr 1
  funext _
  cases prepare source twin options policy with
  | error => rfl
  | ok => simp only [bind_assoc]

theorem prepare_under (source twin : Path) (options : Options) (policy policy' : Policy) :
    prepare source twin options policy' =
      (prepare source twin options policy).map (·.under policy') := by
  unfold prepare
  cases Exclusions.parse? options.patternMode options.excludedDirectories with
  | error => rfl
  | ok =>
    cases Exclusions.parse? options.patternMode options.excludedFiles with
    | error => rfl
    | ok => rfl

/-- How two passes under different policies have ended: before they came to ask for the policy, or
after walks that are alike. -/
inductive EndedAlike (source : Path) (policy policy' : Policy) (fs : FileSystem) (after : State) :
    State → Prop where
  | early : EndedAlike source policy policy' fs after after
  | walked {task : Task} {after' : State} : task.source = source → task.policy = policy →
      Grounded task fs → Matching after after' →
      Interrupted task fs { fileSystem := fs } after →
      Interrupted (task.under policy') fs { fileSystem := fs } after' →
      EndedAlike source policy policy' fs after after'

namespace EndedAlike

theorem report (ended : EndedAlike source policy policy' fs after after') :
    after'.journal.report.withoutStripping = after.journal.report.withoutStripping := by
  cases ended with
  | early => rfl
  | walked _ _ _ alike => exact congrArg (·.report) alike.journal

theorem log (ended : EndedAlike source policy policy' fs after after') :
    after'.journal.log = after.journal.log := by
  cases ended with
  | early => rfl
  | walked _ _ _ alike => exact congrArg (·.log) alike.journal

theorem differ (ended : EndedAlike source policy policy' fs after after') (location : Location) :
    after'.fileSystem.get? location = after.fileSystem.get? location ∨
      (∃ content content' mode, after.fileSystem.get? location = some (.file content mode) ∧
        after'.fileSystem.get? location = some (.file content' mode)) ∧
      Disputed fs source policy policy' after.journal.report.records location := by
  cases ended with
  | early => exact .inl rfl
  | walked source_eq policy_eq grounded alike first second =>
    subst source_eq policy_eq
    exact first.differ grounded second alike location

end EndedAlike

theorem perform_together (wellFormed : fs.WellFormed) (descends : .parent ∉ twin.components)
    (replaced : PlainRenamings options.renamings) (undisturbed : Undisturbed fs source twin) :
    Together (perform source twin options policy) (perform source twin options policy')
      { fileSystem := fs } { fileSystem := fs }
      (fun _ => EndedAlike source policy policy' fs) (EndedAlike source policy policy' fs) := by
  unfold perform
  have early : ∀ after after' : State, after' = after ∧ True →
      EndedAlike source policy policy' fs after after' := by
    rintro after _ ⟨rfl, _⟩
    exact .early
  refine Together.bind ((together_self (checkArguments_meets trivial)).mono (fun _ _ _ => id)
    early) ?_
  rintro _ _ _ ⟨rfl, rfl, isDirectory, apart⟩
  rw [prepare_under source twin options policy policy']
  cases prepared : prepare source twin options policy with
  | error reason => exact together_throw .early
  | ok task =>
    obtain ⟨rfl, rfl, rfl, rfl, _⟩ := eq_of_prepare prepared
    refine Together.bind ((together_self prepareRoot_meets.forget).mono (fun _ _ _ => id) early) ?_
    rintro _ _ ready ⟨rfl, prepared'⟩
    obtain ⟨grounded, _⟩ :=
      grounded_of_prepared wellFormed (anchored_of_descends wellFormed descends) replaced
        isDirectory apart prepared'
    have grounded' := grounded_under grounded policy'
    have first := progress_of_prepared grounded prepared'
    have first' : Progress (task.under policy') fs [[]] [] { fileSystem := fs } ready :=
      progress_of_prepared grounded' ⟨prepared'.records, prepared'.rehearsed, prepared'.created⟩
    have walks : Meets (walk task depthLimit (task.source.extend [])) ready
        (fun _ => Interrupted task fs ready) (Interrupted task fs ready) :=
      walk_meets grounded undisturbed first.sound grounded.source
    have walks' : Meets (walk (task.under policy') depthLimit (task.source.extend [])) ready
        (fun _ => Interrupted (task.under policy') fs ready)
        (Interrupted (task.under policy') fs ready) :=
      walk_meets grounded' undisturbed first'.sound grounded'.source
    have together : Together (walk task depthLimit task.source)
        (walk (task.under policy') depthLimit task.source) ready ready
        (fun _ => Abreast task policy' fs) Matching :=
      walk_together grounded undisturbed ⟨.refl ready, first.sound, first'.sound⟩ (.refl _)
        grounded.source
    refine (Together.and walks walks' together).mono ?_ ?_
    · rintro _ after after' ⟨interrupted, interrupted', abreast⟩
      exact .walked rfl rfl grounded abreast.alike (interrupted.behind first (by simp))
        (interrupted'.behind first' (by simp))
    · rintro after after' ⟨interrupted, interrupted', alike⟩
      exact .walked rfl rfl grounded alike (interrupted.behind first (by simp))
        (interrupted'.behind first' (by simp))

end Pass

variable {source twin : Path} {options : Options}

theorem deriveWith_eq (fs : FileSystem) (source twin : Path) (options : Options)
    (policy : Policy) : deriveWith fs source twin options policy =
      match EStateM.run (Pass.perform source twin options policy) { fileSystem := fs } with
      | .ok _ after => ⟨.ok after.journal.report, after.journal.log, after.fileSystem⟩
      | .error error after => ⟨.error error, after.journal.log, after.fileSystem⟩ := by
  rw [deriveWith, Pass.run_eq_perform, Pass.run_bind]
  cases EStateM.run (Pass.perform source twin options policy) { fileSystem := fs } <;> rfl

theorem recordsMade_eq (fs : FileSystem) (source twin : Path) (options : Options)
    (policy : Policy) : recordsMade fs source twin options policy =
      match EStateM.run (Pass.perform source twin options policy) { fileSystem := fs } with
      | .ok _ after => after.journal.report.records
      | .error _ after => after.journal.report.records := by
  rw [recordsMade, Pass.run_eq_perform, Pass.run_bind]
  cases EStateM.run (Pass.perform source twin options policy) { fileSystem := fs } <;> rfl

/-- Under two policies a pass ends with the same error, or with reports that differ only in what
they say about stripping. What it leaves is the same, except for the content of copies the last of
which is of a file in a directory about which the policies disagree. -/
theorem policy_changes_content_only (policy policy' : Policy) (wellFormed : fs.WellFormed)
    (descends : .parent ∉ twin.components) (replaced : PlainRenamings options.renamings)
    (undisturbed : Undisturbed fs source twin) :
    (deriveWith fs source twin options policy').result.map Report.withoutStripping =
      (deriveWith fs source twin options policy).result.map Report.withoutStripping ∧
    (deriveWith fs source twin options policy').log =
      (deriveWith fs source twin options policy).log ∧
    ∀ location,
      (deriveWith fs source twin options policy').fileSystem.get? location =
        (deriveWith fs source twin options policy).fileSystem.get? location ∨
      (∃ content content' mode,
        (deriveWith fs source twin options policy).fileSystem.get? location =
          some (.file content mode) ∧
        (deriveWith fs source twin options policy').fileSystem.get? location =
          some (.file content' mode)) ∧
      Disputed fs source policy policy' (recordsMade fs source twin options policy) location := by
  have together : Pass.Together (Pass.perform source twin options policy)
      (Pass.perform source twin options policy') { fileSystem := fs } { fileSystem := fs } _ _ :=
    Pass.perform_together wellFormed descends replaced undisturbed
  unfold Pass.Together Pass.Beside at together
  rw [deriveWith_eq, deriveWith_eq, recordsMade_eq]
  split at together
  next ended ended' =>
    rw [ended, ended']
    exact ⟨congrArg Except.ok together.2.report, together.2.log, together.2.differ⟩
  next ended ended' =>
    rw [ended, ended']
    exact ⟨congrArg Except.error together.1, together.2.log, together.2.differ⟩
  next => exact together.elim

/-- A directory `s` with a header that has a linkage keyword. -/
def staticTree : FileSystem where
  entries :=
    [([[0x73]], .directory),
     ([[0x61, 0x2E, 0x68], [0x73]], .file (Utf8.encode "static x".toList) 0o644)]
  workingDirectory := []

/-- The header is copied with its keyword or without it, and that is the whole difference. -/
theorem policy_changes_content_only_staticTree :
    (deriveWith staticTree (.ofString "s") (.ofString "d") {} fun _ => false).fileSystem.get?
        [[0x61, 0x2E, 0x68], [0x64]] ≠
      (deriveWith staticTree (.ofString "s") (.ofString "d") {} fun _ => true).fileSystem.get?
        [[0x61, 0x2E, 0x68], [0x64]] ∧
    (deriveWith staticTree (.ofString "s") (.ofString "d") {} fun _ => false).result.map
        Report.withoutStripping =
      (deriveWith staticTree (.ofString "s") (.ofString "d") {} fun _ => true).result.map
        Report.withoutStripping ∧
    Disputed staticTree (.ofString "s") (fun _ => true) (fun _ => false)
      (recordsMade staticTree (.ofString "s") (.ofString "d") {} fun _ => true)
      [[0x61, 0x2E, 0x68], [0x64]] := by
  have differ :
      (deriveWith staticTree (.ofString "s") (.ofString "d") {} fun _ => false).fileSystem.get?
          [[0x61, 0x2E, 0x68], [0x64]] ≠
        (deriveWith staticTree (.ofString "s") (.ofString "d") {} fun _ => true).fileSystem.get?
          [[0x61, 0x2E, 0x68], [0x64]] := by
    decide +kernel
  have descends : .parent ∉ (Path.ofString "d").components := by decide
  have replaced : PlainRenamings ({} : Options).renamings := by decide
  have undisturbed : Undisturbed staticTree (.ofString "s") (.ofString "d") :=
    undisturbed_of_not_isLink (by decide)
  obtain ⟨reports, _, files⟩ := policy_changes_content_only (fun _ => true) (fun _ => false)
    (by decide) descends replaced undisturbed
  exact ⟨differ, reports, ((files _).resolve_left differ).2⟩

end TwinTree
