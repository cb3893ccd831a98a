import TwinTree.Proofs.FileSystem.Failing
import TwinTree.Proofs.Pass.Progress

/-!
# Steps that fail

A step of a pass that fails has changed no file and recorded nothing, in whatever state it was taken
(`materialize_spares`, `handleFile_spares`): what is written to a file is written to its end. So a
walk that is interrupted has made the progress of the steps before (`Interrupted`).
-/
namespace TwinTree

open FileSystem

/-- No file has changed between two states, and nothing has been recorded. -/
structure Spared (state after : State) : Prop where
  evolves : Evolves DirectoriesOnly state.fileSystem after.fileSystem
  records : after.journal.report.records = state.journal.report.records

namespace Spared

variable {state middle after : State}

theorem refl (wellFormed : state.fileSystem.WellFormed) : Spared state state :=
  ⟨.refl wellFormed, rfl⟩

theorem trans (first : Spared state middle) (second : Spared middle after) : Spared state after :=
  ⟨first.evolves.trans second.evolves, second.records.trans first.records⟩

theorem of_quiet (quiet : Pass.Quiet state after) (wellFormed : state.fileSystem.WellFormed) :
    Spared state after where
  evolves := by
    rw [quiet.files]
    exact .refl wellFormed
  records := quiet.records

end Spared

namespace Pass

variable {β : Type} {task : Task} {state : State} {path source destination directory : Path}
  {content : List UInt8} {entry : SourceEntry} {object : Object} {made : FileSystem}
  {goal : β → State → Prop} {failed : State → Prop}

theorem meets_change_of_ok {access : FileSystem → Except Failure FileSystem}
    {error : String → Error} (succeeds : access state.fileSystem = .ok made) :
    Meets (change access error) state
      (fun _ after => after = { state with fileSystem := made }) failed := by
  unfold change ask
  simp only [bind_assoc]
  refine meets_fileSystem_bind ?_
  rw [succeeds]
  exact meets_modify rfl

theorem ensureDirectory_spares (wellFormed : state.fileSystem.WellFormed) :
    Meets (ensureDirectory path) state (fun _ => Spared state) (Spared state) := by
  have made := createDirectories_spares wellFormed path
  unfold ensureDirectory
  refine meets_isMaterialized_bind ?_
  split
  next => exact meets_pure (.refl wellFormed)
  next =>
    refine meets_fileSystem_bind ?_
    split
    next changed outcome result =>
      rw [result] at made
      refine meets_modify_bind ?_
      split
      next => exact meets_throw ⟨made, rfl⟩
      next => exact meets_modify_bind (meets_pure ⟨made, rfl⟩)

theorem materialize_spares (wellFormed : state.fileSystem.WellFormed) :
    Meets (materialize task path) state (fun _ => Spared state) (Spared state) := by
  have still : Spared state state := .refl wellFormed
  unfold materialize
  refine meets_isMaterialized_bind ?_
  split
  next => exact meets_pure still
  next =>
    refine meets_requireSafe_bind (fun _ => ?_) still
    split
    next => exact meets_modify_bind (meets_modify ⟨still.evolves, rfl⟩)
    next =>
      refine (ensureDirectory_spares wellFormed).bind fun isNew after spared => ?_
      split
      next => exact meets_modify_bind (meets_modify ⟨spared.evolves, spared.records⟩)
      next => exact meets_pure spared

/-- A write that fails has not begun: where one of the accesses has changed something, the others
succeed. -/
theorem write_spares (wellFormed : state.fileSystem.WellFormed)
    (shown : state.fileSystem.stat source = .ok object) :
    Meets (write source destination content) state (fun _ _ => True) (Spared state) := by
  unfold write
  refine meets_change_bind (fun writable changed => ?_) (.refl wellFormed)
  rcases ensureWritable_cases changed with ⟨rfl, _⟩ | ⟨location, held, mode, located, standing, rfl⟩
  · refine meets_change_bind (fun filled wrote => ?_) (.refl wellFormed)
    obtain ⟨done, copied⟩ := copyMode_of_writeFile shown wrote
    exact (meets_change_of_ok copied).mono (fun _ _ _ => trivial) fun _ => id
  · -- The mode has been changed, and the file is still there to be written.
    have develops : Developed (state.fileSystem.get? location)
        (some (.file held (mode ||| ownerWrite))) := standing ▸ .rewritten
    have rewritten : Evolves (WrittenAt location fun _ => True) state.fileSystem
        (state.fileSystem.insert location (.file held (mode ||| ownerWrite))) :=
      .rewrite wellFormed standing trivial
    have there := get?_insert_self state.fileSystem (.file held (mode ||| ownerWrite))
      (ne_nil_of_get?_file standing)
    have found := locate_insert develops located
    have wrote : FileSystem.writeFile _ destination content = .ok _ :=
      writeFile_of_locate rewritten.wellFormed found there
    obtain ⟨later, asked⟩ := exists_stat_insert develops shown
    obtain ⟨done, copied⟩ := copyMode_of_writeFile asked wrote
    refine (meets_change_of_ok wrote).bind ?_
    rintro _ _ rfl
    exact (meets_change_of_ok copied).mono (fun _ _ _ => trivial) fun _ => id

theorem finish_spares {stripping : Bool} (wellFormed : state.fileSystem.WellFormed)
    (shown : state.fileSystem.stat path = .ok object) :
    Meets (finish task path destination content stripping) state (fun _ _ => True)
      (Spared state) := by
  cases dry : task.options.dryRun with
  | true =>
    rw [finish_of_dry dry]
    exact meets_modify_bind (meets_modify trivial)
  | false =>
    rw [finish_of_real dry]
    have wrote : ∀ level message, Meets (write path destination content)
        { state with journal := state.journal.note level message } (fun _ _ => True)
        (Spared state) := fun level message =>
      Meets.mono (write_spares wellFormed shown) (fun _ _ => id) fun _ spared =>
        ⟨spared.evolves, spared.records⟩
    exact meets_modify_bind ((wrote _ _).bind fun _ _ _ => meets_modify trivial)

/-- A file is copied to its end, or none has changed. -/
theorem copy_spares (wellFormed : state.fileSystem.WellFormed) :
    Meets (copy task directory path) state (fun _ _ => True) (Spared state) := by
  refine meets_copy (fun above => materialize_spares wellFormed) (.refl wellFormed)
    (fun _ => id) fun middle text spared read => ?_
  obtain ⟨object, shown, _⟩ := bind_eq_ok_iff.1 read
  exact (finish_spares spared.evolves.wellFormed shown).mono (fun _ _ => id) fun _ => spared.trans

theorem handleFile_spares (wellFormed : state.fileSystem.WellFormed) :
    Meets (handleFile task directory entry) state (fun _ _ => True) (Spared state) := by
  unfold handleFile
  refine meets_modify_bind ?_
  split
  next => exact meets_pure trivial
  next => exact meets_modify_bind (meets_modify trivial)
  next =>
    refine meets_modify_bind ?_
    refine Meets.bind (hasContent_meets (.of_quiet ⟨rfl, rfl, rfl⟩ wellFormed)) ?_
    rintro has asked ⟨quiet, _⟩
    split
    next =>
      -- Counting is all that has been done so far, and it leaves the records alone.
      have spared : Spared state asked :=
        .of_quiet ⟨quiet.files, quiet.known, quiet.records⟩ wellFormed
      exact (copy_spares spared.evolves.wellFormed).mono (fun _ _ => id) fun _ => spared.trans
    next => exact meets_pure trivial

end Pass

/-- A walk that an error has ended: it has made some progress, and the step that failed has changed
no file. -/
inductive Interrupted (task : Task) (before : FileSystem) (state after : State) : Prop where
  | intro {trails : List (List Name)} {files : List SourceFile} {middle : State} :
      Progress task before trails files state middle →
      (∀ file ∈ files, file ∈ task.taken before file.names) →
      Spared middle after → Sound task before after → Interrupted task before state after

theorem Task.names_eq_of_mem_taken {task : Task} {before : FileSystem} {names : List Name}
    {file : SourceFile} (member : file ∈ task.taken before names) : file.names = names := by
  obtain ⟨_, _, rfl⟩ := List.mem_map.1 member
  rfl

namespace Interrupted

variable {task : Task} {before : FileSystem} {trails : List (List Name)}
  {files : List SourceFile} {state middle after : State}

/-- An error right where progress has been made. -/
theorem of_progress (progress : Progress task before trails files state middle)
    (taken : ∀ file ∈ files, file ∈ task.taken before file.names)
    (failed : Spared middle after ∧ Sound task before after) :
    Interrupted task before state after := .intro progress taken failed.1 failed.2

/-- What comes before an interrupted walk is progress too. -/
theorem behind (interrupted : Interrupted task before middle after)
    (progress : Progress task before trails files state middle)
    (taken : ∀ file ∈ files, file ∈ task.taken before file.names) :
    Interrupted task before state after := by
  obtain ⟨further, more, spared, sound⟩ := interrupted
  exact .intro (progress.trans further) (List.forall_mem_append.2 ⟨taken, more⟩) spared sound

end Interrupted

end TwinTree
