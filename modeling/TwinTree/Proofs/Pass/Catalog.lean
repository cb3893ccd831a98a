import TwinTree.Proofs.FileSystem.Naming
import TwinTree.Proofs.Pass.Lockstep

/-!
# What a report lists

Whatever a pass meets and wherever its twin is, every record of its report is the one that belongs
to a file beneath the source whose name is selected, and a real pass counts as many copies as it has
records (`catalogued_of_deriveWith`). Nothing is taken for granted here about where links lead.
-/
namespace TwinTree

open FileSystem

/-- A file that a pass may record: its names are components of paths, and its own is selected. -/
structure Task.Lists (task : Task) (file : SourceFile) : Prop where
  plain : ∀ name ∈ file.names ++ [file.name], IsPlain name
  selected : Selection.ofName task.options task.excludedFiles (Utf8.lossy file.name) = .selected

/-- The invariant of a report. -/
structure Catalogued (task : Task) (state : State) : Prop where
  named : state.fileSystem.NamesPlain
  records : ∀ record ∈ state.journal.report.records, ∃ file, task.Lists file ∧
    record = task.record file
  counted : task.options.dryRun = false →
    state.journal.report.copied = state.journal.report.records.length

variable {task : Task} {state : State}

namespace Catalogued

/-- Only the names in the file system and the report matter. -/
theorem congr {after : State} (catalogued : Catalogued task state)
    (named : after.fileSystem.NamesPlain) (same : after.journal = state.journal) :
    Catalogued task after where
  named := named
  records := same ▸ catalogued.records
  counted := same ▸ catalogued.counted

theorem routine {change : Journal → Journal} (catalogued : Catalogued task state)
    (routine : Journal.Routine change) :
    Catalogued task { state with journal := change state.journal } where
  named := catalogued.named
  records := by cases routine <;> exact catalogued.records
  counted := by cases routine <;> exact catalogued.counted

theorem addDirectory (catalogued : Catalogued task state) :
    Catalogued task { state with journal := state.journal.count .addDirectory } :=
  ⟨catalogued.named, catalogued.records, catalogued.counted⟩

theorem addRecord {file : SourceFile} {journal : Journal} (catalogued : Catalogued task state)
    (lists : task.Lists file)
    (records : journal.report.records = state.journal.report.records ++ [task.record file])
    (counted : task.options.dryRun = false →
      journal.report.copied = state.journal.report.copied + 1) :
    Catalogued task { state with journal } where
  named := catalogued.named
  records record member := by
    rw [records] at member
    rcases List.mem_append.1 member with old | new
    · exact catalogued.records record old
    · exact ⟨file, lists, List.mem_singleton.1 new⟩
  counted real := by
    rw [records, counted real, catalogued.counted real]
    simp

end Catalogued

namespace Pass

/-! ### Steps that only take notes -/

section Notes

variable {Holds : State → Prop} {directory : Path} {entry : SourceEntry}
  (routine : ∀ {state : State} {change : Journal → Journal}, Journal.Routine change →
    Holds state → Holds { state with journal := change state.journal })

include routine

theorem list_keeps (holds : Holds state) :
    Meets (list directory) state (fun _ => Holds) fun _ => True := by
  have warned : ∀ warnings, Holds { state with journal := state.journal.warnAll warnings } := by
    intro warnings
    induction warnings generalizing state with
    | nil => simpa using holds
    | cons warning rest ih =>
      rw [Journal.warnAll_cons]
      exact ih (routine (.warn warning) holds)
  unfold Meets
  rw [run_list]
  cases state.fileSystem.readDirectory directory with
  | error => exact trivial
  | ok => exact warned _

theorem hasContent_keeps (holds : Holds state) :
    Meets (hasContent entry) state (fun _ => Holds) fun _ => True := by
  unfold hasContent
  split
  next => exact meets_pure holds
  next =>
    refine meets_ask_bind (fun target _ => ?_) trivial
    split
    next => exact meets_pure holds
    next =>
      apply meets_modify_bind
      apply meets_modify_bind
      exact meets_pure (routine .skipped (routine (.warn _) holds))

theorem admits_keeps (holds : Holds state) :
    Meets (admits task entry) state (fun _ => Holds) fun _ => True := by
  unfold admits
  split
  next =>
    apply meets_modify_bind
    exact meets_pure (routine (.note _ _) holds)
  split
  next =>
    apply meets_modify_bind
    exact meets_pure (routine (.note _ _) holds)
  split
  next =>
    apply meets_modify_bind
    exact meets_pure (routine (.warn _) holds)
  next => exact meets_pure holds

end Notes

/-! ### Steps that change the twin -/

variable {path source : Path} {content : List UInt8} {names : List Name} {file : SourceFile}

theorem ensureDirectory_catalogued (catalogued : Catalogued task state) :
    Meets (ensureDirectory path) state (fun _ => Catalogued task) fun _ => True := by
  unfold ensureDirectory
  apply meets_isMaterialized_bind
  split
  next => exact meets_pure catalogued
  next =>
    apply meets_fileSystem_bind
    have named := catalogued.named.createDirectories path
    generalize state.fileSystem.createDirectories path = outcome at named
    obtain ⟨changed, outcome⟩ := outcome
    apply meets_modify_bind
    cases outcome with
    | error => exact meets_throw trivial
    | ok =>
      apply meets_modify_bind
      exact meets_pure (catalogued.congr named rfl)

theorem materialize_catalogued (catalogued : Catalogued task state) :
    Meets (materialize task path) state (fun _ => Catalogued task) fun _ => True := by
  unfold materialize
  apply meets_isMaterialized_bind
  split
  next => exact meets_pure catalogued
  next =>
    refine meets_requireSafe_bind (fun _ => ?_) trivial
    split
    next =>
      have known : Catalogued task { state with materialized := state.materialized ++ [path] } :=
        catalogued.congr catalogued.named rfl
      apply meets_modify_bind
      exact meets_modify known.addDirectory
    next =>
      refine (ensureDirectory_catalogued catalogued).bind fun isNew after catalogued => ?_
      split
      next =>
        apply meets_modify_bind
        exact meets_modify (catalogued.routine (.note _ _)).addDirectory
      next => exact meets_pure catalogued

theorem write_catalogued (catalogued : Catalogued task state) :
    Meets (write source path content) state (fun _ => Catalogued task) fun _ => True := by
  unfold write
  refine meets_change_bind (fun writable opened => ?_) trivial
  have first := catalogued.named.ensureWritable opened
  refine meets_change_bind (fun filled written => ?_) trivial
  have second := first.writeFile written
  refine meets_change (fun done remoded => ?_) trivial
  exact catalogued.congr (second.copyMode remoded) rfl

theorem finish_catalogued (lists : task.Lists file) (catalogued : Catalogued task state) :
    Meets (finish task (task.path file) (task.record file).destination content
        (task.record file).stripped) state (fun _ => Catalogued task) fun _ => True := by
  unfold finish
  split
  -- A dry run records the file and counts no copy.
  next dry =>
    apply meets_modify_bind
    refine meets_modify ((catalogued.routine (.note _ _)).addRecord lists rfl fun real => ?_)
    rw [dry] at real
    cases real
  next =>
    apply meets_modify_bind
    refine (write_catalogued (catalogued.routine (.note _ _))).bind fun _ after catalogued => ?_
    exact meets_modify (catalogued.addRecord lists rfl fun _ => rfl)

theorem copy_catalogued (file : SourceFile) (lists : task.Lists file)
    (catalogued : Catalogued task state) :
    Meets (copy task (task.source.extend file.names) (task.path file)) state
      (fun _ => Catalogued task) fun _ => True := by
  refine meets_copy (fun _ => materialize_catalogued catalogued) catalogued (fun _ _ => trivial) ?_
  exact fun _ _ catalogued _ => finish_catalogued lists catalogued

/-! ### Walks -/

theorem handleFile_catalogued {name : Name} {object : Object}
    (plain : ∀ part ∈ names ++ [name], IsPlain part) (catalogued : Catalogued task state) :
    Meets (handleFile task (task.source.extend names)
        (.ofEntry (task.source.extend names) (name, object))) state
      (fun _ => Catalogued task) fun _ => True := by
  unfold handleFile
  apply meets_modify_bind
  have catalogued := catalogued.routine .scanned
  split
  next => exact meets_pure catalogued
  next =>
    apply meets_modify_bind
    exact meets_modify ((catalogued.routine (.note _ _)).routine .skipped)
  next selected =>
    apply meets_modify_bind
    refine Meets.bind (hasContent_keeps (fun routine holds => holds.routine routine)
      (catalogued.routine .matched)) fun has after catalogued => ?_
    split
    next => exact copy_catalogued ⟨names, name⟩ ⟨plain, selected⟩ catalogued
    next => exact meets_pure catalogued

/-- What a listing tells has a plain name, wherever the directory has led. -/
theorem list_meets_named (named : state.fileSystem.NamesPlain) :
    Meets (list path) state (fun listing _ =>
      ∀ entry ∈ listing.files ++ listing.directories, ∃ name object,
        IsPlain name ∧ entry = .ofEntry path (name, object)) fun _ => True := by
  refine (list_meets trivial).mono ?_ fun _ => id
  rintro listing _ ⟨_, entries, read, directories, files⟩ entry member
  -- Wherever the path has led, the names are those of entries of the file system.
  obtain ⟨location, _, _, rfl⟩ := exists_of_readDirectory read
  rw [files, directories, ← List.map_append] at member
  obtain ⟨found, within, rfl⟩ := List.mem_map.1 member
  have child : found ∈ state.fileSystem.children location := by
    rcases List.mem_append.1 within with file | directory
    · exact (SourceEntry.mem_listed.1 file).1
    · exact (SourceEntry.mem_listed.1 directory).1
  exact ⟨found.1, found.2, named.children child, rfl⟩

theorem list_catalogued (catalogued : Catalogued task state) :
    Meets (list path) state
      (fun listing after => (∀ entry ∈ listing.files ++ listing.directories, ∃ name object,
        IsPlain name ∧ entry = .ofEntry path (name, object)) ∧ Catalogued task after)
      fun _ => True := by
  have kept : Meets (list path) state (fun _ => Catalogued task) fun _ => True :=
    list_keeps (fun routine holds => holds.routine routine) catalogued
  exact ((list_meets_named catalogued.named).and kept).forget

theorem walk_catalogued {depth : Nat} (plain : ∀ part ∈ names, IsPlain part)
    (catalogued : Catalogued task state) :
    Meets (walk task depth (task.source.extend names)) state (fun _ => Catalogued task)
      fun _ => True := by
  induction depth generalizing state names with
  | zero => exact meets_throw trivial
  | succ depth ih =>
    -- The names on the way stay plain from one directory to the next.
    have further : ∀ {name}, IsPlain name → ∀ part ∈ names ++ [name], IsPlain part :=
      fun own => List.forall_mem_append.2 ⟨plain, by simpa using own⟩
    unfold walk
    refine (materialize_catalogued catalogued).bind fun _ prepared catalogued => ?_
    refine (list_catalogued catalogued).bind ?_
    rintro listing listed ⟨named, catalogued⟩
    obtain ⟨files, directories⟩ := List.forall_mem_append.1 named
    have handled : Meets (listing.files.forM (handleFile task (task.source.extend names))) listed
        (fun _ => Catalogued task) fun _ => True := by
      refine meets_forM_of_mem catalogued fun entry member state catalogued => ?_
      obtain ⟨name, object, own, rfl⟩ := files entry member
      exact handleFile_catalogued (further own) catalogued
    refine handled.bind fun _ done catalogued => ?_
    refine meets_forM_of_mem catalogued fun entry member state catalogued => ?_
    obtain ⟨name, object, own, rfl⟩ := directories entry member
    refine Meets.bind (admits_keeps (fun routine holds => holds.routine routine) catalogued) ?_
    intro admitted asked catalogued
    split
    next =>
      have deeper := ih (further own) catalogued
      rwa [Path.extend_append_singleton] at deeper
    next => exact meets_pure catalogued

/-! ### Whole passes -/

theorem prepareRoot_catalogued (catalogued : Catalogued task state) :
    Meets (prepareRoot path task.options.dryRun) state (fun _ => Catalogued task)
      fun _ => True := by
  unfold prepareRoot
  split
  next => exact meets_pure catalogued
  next =>
    refine Meets.bind ((ensureDirectory_catalogued catalogued).tryCatch fun error after _ => ?_) ?_
    · split
      · exact meets_throw trivial
      · exact meets_throw trivial
    intro isNew after later
    split
    next => exact meets_modify later.addDirectory
    next => exact meets_pure later

end Pass

variable {source twin : Path} {options : Options} {policy : Policy} {fs : FileSystem}
  {report : Report}

theorem catalogued_of_deriveWith (wellFormed : fs.WellFormed)
    (succeeded : (deriveWith fs source twin options policy).result = .ok report) :
    ∃ task, Pass.prepare source twin options policy = .ok task ∧
      (∀ record ∈ report.records, ∃ file, task.Lists file ∧ record = task.record file) ∧
      (options.dryRun = false → report.copied = report.records.length) := by
  obtain ⟨after, ended⟩ := exists_run_of_deriveWith succeeded
  obtain ⟨rfl, task, start, ready, stages⟩ := Pass.run_eq_ok_iff.1 ended
  obtain ⟨rfl, rfl, rfl, rfl, _⟩ := Pass.eq_of_prepare stages.prepared
  obtain ⟨rfl, _⟩ := Pass.run_checkArguments_eq_ok_iff.1 stages.checked
  have begun : Catalogued task { fileSystem := fs } :=
    ⟨wellFormed.namesPlain, by simp, fun _ => rfl⟩
  have rooted := (Pass.prepareRoot_catalogued begun).of_run stages.rooted
  have walks : Pass.Meets (Pass.walk task Pass.depthLimit (task.source.extend [])) ready
      (fun _ => Catalogued task) fun _ => True := Pass.walk_catalogued (by simp) rooted
  have walked := walks.of_run stages.walked
  exact ⟨task, stages.prepared, walked.records, walked.counted⟩

end TwinTree
