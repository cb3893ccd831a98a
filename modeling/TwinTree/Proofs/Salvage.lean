import TwinTree.Proofs.Enumeration
import TwinTree.Proofs.Pass.Raising
import TwinTree.Proofs.Pass.Refusal

/-!
# What a pass that fails leaves behind

A real pass that fails leaves only whole files (`failure_leaves_whole_files`). An error that refuses
the arguments has changed nothing. Any other leaves directories, and in the place of each record the
whole copy of the last file recorded for it; the step that failed has changed no file. Where the
system has refused a call, the writing of one more file may have begun: the file may have become
writable and nothing more (`refused_write_makes_writable`).
-/
namespace TwinTree

open FileSystem

/-- The records that a pass has made when it ends, whether it succeeds or not. -/
def recordsMade (fs : FileSystem) (source twin : Path) (options : Options) (policy : Policy) :
    List Record :=
  match EStateM.run (Pass.run source twin options policy) { fileSystem := fs } with
  | .ok _ after => after.journal.report.records
  | .error _ after => after.journal.report.records

/-- Whole files are all that there is, besides directories, that was not there before: each of them
is where a record says, beneath the root of the twin, and the last record of each place is
followed. -/
structure Salvaged (source twin : Path) (options : Options) (policy : Policy)
    (before after : FileSystem) (records : List Record) : Prop where
  changed : ∀ location, after.get? location = before.get? location ∨
    (before.get? location = none ∧ after.get? location = some .directory) ∨
    before.prospect twin <:+ location ∧ ∃ record ∈ records,
      before.prospect record.destination = location ∧
        CopiedWhole source twin options policy before after record
  copied : ∀ front record behind, records = front ++ record :: behind →
    (∀ later ∈ behind, ¬ later.destination.Same record.destination) →
    CopiedWhole source twin options policy before after record

/-- Of all files only that of the record is not whole: it is one of the source, its place is beneath
the root of the twin, and the writing of its copy has begun there. -/
structure Unfinished (source twin : Path) (options : Options) (policy : Policy)
    (before middle after : FileSystem) (record : Record) : Prop where
  destination : record.destination = Placement.file source twin options.renamings record.source
  beneath : before.prospect twin <:+ before.prospect record.destination
  begun : ∃ names raw mode text, record.source.LiesIn source names ∧
    record.stripped = policy (source.extend names) ∧
    before.stat record.source = .ok (.file raw mode) ∧ Utf8.decode? raw = some text ∧
    BegunAt (Utf8.encode (adapt (Rule.standard options.vocabulary) record.stripped text))
      (before.prospect record.destination) middle after

/-- An action that fails has changed no file. -/
def Pass.FailsWhole {α : Type} (action : Pass α) : Prop :=
  ∀ state error after, state.fileSystem.WellFormed →
    EStateM.run action state = .error error after → SparesFiles state.fileSystem after.fileSystem

/-- None of the steps that a pass takes changes a file and fails. -/
structure Task.StepsFailWhole (task : Task) : Prop where
  prepareRoot : Pass.FailsWhole (Pass.prepareRoot task.twin task.options.dryRun)
  materialize : ∀ path, Pass.FailsWhole (Pass.materialize task path)
  list : ∀ directory, Pass.FailsWhole (Pass.list directory)
  handleFile : ∀ directory entry, Pass.FailsWhole (Pass.handleFile task directory entry)
  admits : ∀ entry, Pass.FailsWhole (Pass.admits task entry)

section

variable {task : Task} {before fs made : FileSystem} {after : State} {file : SourceFile}
  {source twin : Path} {options : Options} {policy : Policy} {error : Error} {request : Request}
  {state : State}

theorem Filled.spared (filled : Filled task before file fs) (spares : SparesFiles fs made) :
    Filled task before file made := by
  obtain ⟨raw, mode, text, shown, decoded, standing⟩ := filled.copied
  refine ⟨filled.accepted, raw, mode, text, shown, decoded, ?_⟩
  rcases spares (task.goal before file) with same | ⟨missing, _⟩
  · exact same.trans standing
  · cases missing.symm.trans standing

/-- A walk that has been interrupted leaves whole files. -/
theorem Interrupted.salvaged
    (interrupted : Interrupted task before { fileSystem := before } after)
    (grounded : Grounded task before) (real : task.options.dryRun = false)
    (rules_eq : task.rules = Rule.standard task.options.vocabulary) :
    Salvaged task.source task.twin task.options task.policy before after.fileSystem
      after.journal.report.records := by
  obtain @⟨trails, files, middle, progress, taken, spared, sound⟩ := interrupted
  have records_eq : after.journal.report.records = files.map task.record :=
    spared.records.trans progress.records
  have spares := spared.evolves.sparesFiles
  have beneath : ∀ file ∈ files,
      Path.Beneath (task.path file) task.source (file.names ++ [file.name]) :=
    fun file member => task.beneath_of_mem_taken grounded.wellFormed (taken file member)
  have whole : ∀ file ∈ files, Filled task before file middle.fileSystem →
      CopiedWhole task.source task.twin task.options task.policy before after.fileSystem
        (task.record file) := fun file member filled =>
    CopiedWhole.of_filled sound real rules_eq (beneath file member) (filled.spared spares)
  rw [records_eq]
  constructor
  case changed =>
    intro location
    rcases spares location with same | ⟨missing, directory⟩
    · rw [same]
      refine (progress.changed location).imp_right (.imp_right ?_)
      -- Where a file has been copied, the last one copied to this place is found.
      rintro ⟨file, member, rfl⟩
      obtain ⟨last, within, goal_eq, filled⟩ := progress.exists_filled_at real member
      refine ⟨List.suffix_append .., task.record last, List.mem_map_of_mem within, ?_,
        whole last within filled⟩
      exact (progress.prospect_file real within (beneath last within)).trans goal_eq
    · exact .inr (.inl ⟨(progress.evolves.developed location).missing missing, directory⟩)
  case copied =>
    intro front record behind split last
    obtain ⟨file, member, rfl, filled⟩ :=
      progress.exists_filled grounded real beneath split last
    exact whole file member filled

/-- What changes nothing but directories leaves whole files. -/
theorem Spared.salvaged (spared : Spared { fileSystem := fs } after) :
    Salvaged source twin options policy fs after.fileSystem after.journal.report.records := by
  have empty : after.journal.report.records = [] := spared.records
  rw [empty]
  refine ⟨fun location => (spared.evolves.sparesFiles location).imp_right .inl, ?_⟩
  intro front record behind split
  simp at split

/-- Where the call of a walk is to be made, there are whole files, and perhaps one whose writing has
begun. -/
theorem Pending.salvaged (pending : Pending task before request state)
    (grounded : Grounded task before) (real : task.options.dryRun = false)
    (rules_eq : task.rules = Rule.standard task.options.vocabulary) :
    request.IsLate ∧ (Salvaged task.source task.twin task.options task.policy before
        state.fileSystem state.journal.report.records ∨
      ∃ middle record, request.raise = .fileNotWritten record.destination ∧
        Salvaged task.source task.twin task.options task.policy before middle
          state.journal.report.records ∧
        Unfinished task.source task.twin task.options task.policy before middle state.fileSystem
          record) := by
  cases pending with
  | between late interrupted => exact ⟨late, .inl (interrupted.salvaged grounded real rules_eq)⟩
  | @writing file middle raw mode text raises interrupted taken goal_eq shown decoded recorded
      begun =>
    have beneath := task.beneath_of_mem_taken grounded.wellFormed taken
    refine ⟨?_, .inr ⟨middle.fileSystem, task.record file, raises, ?_, rfl, ?_, ?_⟩⟩
    · rw [Request.IsLate, raises]
      nofun
    · rw [recorded]
      exact interrupted.salvaged grounded real rules_eq
    · rw [goal_eq]
      exact List.suffix_append ..
    · rw [rules_eq, ← goal_eq] at begun
      exact ⟨file.names, raw, mode, text, ⟨file.name, beneath.plain, rfl⟩, rfl, shown, decoded,
        begun⟩

theorem Pass.Meets.failsWhole {α : Type} {action : Pass α}
    (meets : ∀ state : State, state.fileSystem.WellFormed →
      Pass.Meets action state (fun _ _ => True) (Spared state)) : Pass.FailsWhole action :=
  fun state _ _ wellFormed ended =>
    ((meets state wellFormed).of_run_error ended).evolves.sparesFiles

theorem Task.stepsFailWhole (task : Task) : task.StepsFailWhole where
  prepareRoot := Pass.Meets.failsWhole fun _ => Pass.prepareRoot_spares
  materialize _ := Pass.Meets.failsWhole fun _ wellFormed =>
    (Pass.materialize_spares wellFormed).mono (fun _ _ _ => trivial) fun _ => id
  list _ := Pass.Meets.failsWhole fun _ wellFormed =>
    (Pass.list_meets (.refl wellFormed)).mono (fun _ _ _ => trivial) fun _ => id
  handleFile _ _ := Pass.Meets.failsWhole fun _ => Pass.handleFile_spares
  admits _ := Pass.Meets.failsWhole fun _ _ =>
    Pass.admits_meets.mono (fun _ _ _ => trivial) fun _ => id

/-- An error that refuses the arguments has changed nothing. -/
theorem fileSystem_eq_of_refusal (refusal : error.IsRefusal)
    (ended : EStateM.run (Pass.run source twin options policy) { fileSystem := fs } =
      .error error after) : after.fileSystem = fs := by
  have checks : Pass.Meets (Pass.checkArguments source twin) { fileSystem := fs }
      (fun _ after => after = { fileSystem := fs }) (fun after => after = { fileSystem := fs }) :=
    (Pass.checkArguments_meets rfl).mono (fun _ _ checked => checked.1) fun _ => Eq.symm
  unfold Pass.run at ended
  rcases Pass.run_bind_eq_error ended with early | ⟨_, middle, begun, late⟩
  · rw [checks.of_run_error early]
  obtain rfl := checks.of_run begun
  cases prepared : Pass.prepare source twin options policy with
  | error reason =>
    rw [prepared] at late
    cases late
    rfl
  | ok task =>
    -- From here on no error refuses the arguments.
    rw [prepared] at late
    have others : Pass.Raises (¬ ·.IsRefusal) (do
        Pass.prepareRoot twin options.dryRun
        Pass.walk task Pass.depthLimit source
        return (← get).journal.report) :=
      (Pass.composes_raises _).covers.prepareRoot.bind fun _ =>
        (Pass.composes_raises _).covers.walk _ |>.bind fun _ => nofun
    exact absurd refusal (others _ _ _ late)

/-- A pass that fails by itself. -/
theorem salvaged_of_failed (wellFormed : fs.WellFormed) (descends : .parent ∉ twin.components)
    (replaced : PlainRenamings options.renamings) (undisturbed : Undisturbed fs source twin)
    (real : options.dryRun = false)
    (ended : EStateM.run (Pass.run source twin options policy) { fileSystem := fs } =
      .error error after) :
    Salvaged source twin options policy fs after.fileSystem after.journal.report.records := by
  have stops : Pass.Meets (Pass.run source twin options policy) { fileSystem := fs }
      (fun _ _ => True) (Stopped source twin options policy fs) := by
    rw [Pass.run_eq]
    exact (Pass.runTraced_meets wellFormed descends replaced undisturbed).bind fun _ _ _ => trivial
  rcases stops.of_run_error ended with spared | ⟨task, prepared, grounded, interrupted⟩
  · exact spared.salvaged
  · obtain ⟨rfl, rfl, rfl, rfl, rules_eq, _⟩ := Pass.eq_of_prepare prepared
    exact interrupted.salvaged grounded real rules_eq

/-- A pass that is refused a call. -/
theorem salvaged_of_refused {refuses : Nat → Call → Option String} (wellFormed : fs.WellFormed)
    (descends : .parent ∉ twin.components) (replaced : PlainRenamings options.renamings)
    (undisturbed : Undisturbed fs source twin) (real : options.dryRun = false)
    (refused : (Pass.passCourse source twin options policy).MeetsRefusal { fileSystem := fs }
      refuses) :
    ∃ error after, EStateM.run ((Pass.passCourse source twin options policy).runIn [] refuses)
        { fileSystem := fs } = .error error after ∧
      (error.IsRefusal → after.fileSystem = fs) ∧
      (Salvaged source twin options policy fs after.fileSystem after.journal.report.records ∨
        ∃ middle record reason, error = .fileNotWritten record.destination reason ∧
          Salvaged source twin options policy fs middle after.journal.report.records ∧
          Unfinished source twin options policy fs middle after.fileSystem record) := by
  have withstands : (Pass.passCourse source twin options policy).Withstands
      (Ventured source twin options policy fs) { fileSystem := fs } :=
    Pass.passCourse_withstands wellFormed descends replaced undisturbed real
  obtain ⟨request, reason, after, ended, rfl | ⟨task, prepared, grounded, pending⟩⟩ :=
    Course.runIn_of_refused withstands refused
  · exact ⟨_, _, ended, fun _ => rfl, .inl (Spared.refl wellFormed).salvaged⟩
  · obtain ⟨rfl, rfl, rfl, rfl, rules_eq, _⟩ := Pass.eq_of_prepare prepared
    obtain ⟨late, left⟩ := pending.salvaged grounded real rules_eq
    refine ⟨_, _, ended, fun refusal => absurd refusal (late reason), left.imp_right ?_⟩
    rintro ⟨middle, record, raises, salvaged, unfinished⟩
    exact ⟨middle, record, reason, congrFun raises reason, salvaged, unfinished⟩

theorem exists_run_of_failed {system : System}
    (failed : (deriveIn system fs source twin options policy).result = .error error) :
    ∃ after, EStateM.run ((Pass.passCourse source twin options policy).runIn system.links
        system.refuses) { fileSystem := fs } = .error error after ∧
      (deriveIn system fs source twin options policy).fileSystem = after.fileSystem := by
  unfold deriveIn at failed ⊢
  split at failed
  next => cases failed
  next raised after ended =>
    cases failed
    exact ⟨after, ended, rfl⟩

end

/-- A directory `s` with a header `a.h`, one that is no text, `b.h`, and another one, `c.h`. -/
def illFormedTree : FileSystem where
  entries :=
    [([[0x73]], .directory),
     ([[0x61, 0x2E, 0x68], [0x73]], .file [0x78] 0o400),
     ([[0x62, 0x2E, 0x68], [0x73]], .file [0xFF] 0o644),
     ([[0x63, 0x2E, 0x68], [0x73]], .file [0x79] 0o644)]
  workingDirectory := []

theorem undisturbed_illFormedTree : Undisturbed illFormedTree (.ofString "s") (.ofString "d") :=
  undisturbed_of_not_isLink (by decide)

/-- A directory `s` with a header `a.h`, and a directory `d` with another one that nobody may
write. -/
def readOnlyTree : FileSystem where
  entries :=
    [([[0x73]], .directory), ([[0x64]], .directory),
     ([[0x61, 0x2E, 0x68], [0x73]], .file [0x78] 0o644),
     ([[0x61, 0x2E, 0x68], [0x64]], .file (Utf8.encode "hazel".toList) 0o555)]
  workingDirectory := []

/-- The system does not let `d/a.h` be written, because it is being run. -/
def busy (_ : Nat) (call : Call) : Option String :=
  if call = .writeFile (.ofString "d/a.h") then some "Text file busy (os error 26)" else none

end TwinTree
