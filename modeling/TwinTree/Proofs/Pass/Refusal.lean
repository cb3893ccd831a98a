import TwinTree.Proofs.Pass.Completion
import TwinTree.Proofs.Pass.Composition
import TwinTree.Proofs.Pass.Copies
import TwinTree.Proofs.Pass.System

/-!
# Calls that are to be made

When a call of a walk is to be made, the walk has made the progress of the steps before it, and
besides it may have begun to write one file (`Pending`). This holds for every call of a real pass
from the making of the root on; before that, nothing has changed (`passCourse_withstands`).
-/
namespace TwinTree

open FileSystem

/-- Where the request is refused, the arguments of the pass are not what is refused. -/
def Request.IsLate (request : Request) : Prop := ∀ reason, ¬ (request.raise reason).IsRefusal

/-- Some steps of a walk have been taken since the start. -/
def Advanced (task : Task) (before : FileSystem) (state : State) : Prop :=
  ∃ trails files, Progress task before trails files { fileSystem := before } state ∧
    ∀ file ∈ files, file ∈ task.taken before file.names

/-- What has been done by the time a call is to be made: steps of the walk, and perhaps a part of
writing one more file. -/
inductive Pending (task : Task) (before : FileSystem) (request : Request) (state : State) :
    Prop where
  | between : request.IsLate →
      Interrupted task before { fileSystem := before } state →
      Pending task before request state
  | writing {file : SourceFile} {middle : State} {raw : List UInt8} {mode : Nat}
      {text : List Char} :
      request.raise = .fileNotWritten (task.record file).destination →
      Interrupted task before { fileSystem := before } middle →
      file ∈ task.taken before file.names →
      before.prospect (task.record file).destination = task.goal before file →
      before.stat (task.path file) = .ok (.file raw mode) → Utf8.decode? raw = some text →
      state.journal.report.records = middle.journal.report.records →
      BegunAt (Utf8.encode (adapt task.rules (task.record file).stripped text))
        (task.goal before file) middle.fileSystem state.fileSystem →
      Pending task before request state

/-- What has been done by the time a call of a pass is to be made. -/
def Ventured (source twin : Path) (options : Options) (policy : Policy) (fs : FileSystem)
    (request : Request) (state : State) : Prop :=
  state = { fileSystem := fs } ∨ ∃ task, Pass.prepare source twin options policy = .ok task ∧
    Grounded task fs ∧ Pending task fs request state

variable {task : Task} {before fs : FileSystem} {state after : State} {path : Path}
  {names : List Name} {found : Name × Object} {source twin : Path} {options : Options}
  {policy : Policy}

namespace Advanced

theorem sound (advanced : Advanced task before state) : Sound task before state := by
  obtain ⟨_, _, progress, _⟩ := advanced
  exact progress.sound

theorem interrupted (advanced : Advanced task before state) :
    Interrupted task before { fileSystem := before } state := by
  obtain ⟨_, _, progress, taken⟩ := advanced
  exact .of_progress progress taken ⟨.refl progress.sound.wellFormed, progress.sound⟩

theorem quiet (advanced : Advanced task before state) (quiet : Pass.Quiet state after) :
    Advanced task before after := by
  obtain ⟨trails, files, progress, taken⟩ := advanced
  exact ⟨trails, files, progress.quiet quiet, taken⟩

theorem progress {trails : List (List Name)} {files : List SourceFile}
    (advanced : Advanced task before state)
    (further : Progress task before trails files state after)
    (taken : ∀ file ∈ files, file ∈ task.taken before file.names) :
    Advanced task before after := by
  obtain ⟨_, _, progress, earlier⟩ := advanced
  exact ⟨_, _, progress.trans further, List.forall_mem_append.2 ⟨earlier, taken⟩⟩

theorem pending {requests : List Request} (advanced : Advanced task before state)
    (late : ∀ request ∈ requests, request.IsLate) :
    ∀ request ∈ requests, Pending task before request state :=
  fun request member => .between (late request member) advanced.interrupted

end Advanced

namespace Pass

open Course

/-- A subdirectory that is admitted is one. -/
theorem admits_advances (grounded : Grounded task before)
    (member : found ∈ task.listed before names .directory)
    (advanced : Advanced task before state) :
    Meets (admits task (.ofEntry (task.source.extend names) found)) state
      (fun admitted after => Advanced task before after ∧ (admitted = true →
        before.get? (task.stand before (names ++ [found.1])) = some .directory))
      fun _ => True := by
  obtain ⟨stands, same⟩ := (task.mem_listed_iff grounded.wellFormed).1 member
  refine admits_meets.mono ?_ fun _ => id
  rintro admitted after ⟨quiet, enters⟩
  refine ⟨advanced.quiet quiet, fun admitted => ?_⟩
  rw [stands, eq_directory_of_kind same (enters.1 admitted).2]

theorem walk_advances {depth : Nat} (grounded : Grounded task before)
    (undisturbed : Undisturbed before task.source task.twin)
    (standing : before.get? (task.stand before names) = some .directory)
    (advanced : Advanced task before state) :
    Meets (walk task depth (task.source.extend names)) state (fun _ => Advanced task before)
      fun _ => True := by
  rw [walk_eq]
  refine (walkTraced_meets grounded undisturbed advanced.sound standing).forget.bind ?_
  rintro _ after ⟨trails, _, _, progress⟩
  exact meets_pure (advanced.progress progress mem_taken_of_mem_flatMap)

/-! ### Late requests -/

theorem isLate_of_mem_inspectionRequests {components : List Component} :
    ∀ request ∈ inspectionRequests fs path components, request.IsLate := by
  induction components generalizing path with
  | nil => simp [inspectionRequests]
  | cons component rest ih =>
    unfold inspectionRequests
    dsimp only
    split
    next => exact List.forall_mem_singleton.2 nofun
    next => exact List.forall_mem_cons.2 ⟨nofun, ih⟩
    next => exact List.forall_mem_singleton.2 nofun

theorem isLate_of_mem_safetyRequests :
    ∀ request ∈ safetyRequests task path state, request.IsLate := by
  unfold safetyRequests
  dsimp only
  split
  next => exact isLate_of_mem_inspectionRequests
  next => simp

theorem isLate_of_mem_directoryRequests :
    ∀ request ∈ directoryRequests task path state, request.IsLate := by
  unfold directoryRequests
  split
  next => simp
  next =>
    refine List.forall_mem_append.2 ⟨isLate_of_mem_safetyRequests, ?_⟩
    split
    next => exact List.forall_mem_singleton.2 nofun
    next => simp

theorem isLate_of_mem_listRequests : ∀ request ∈ listRequests path, request.IsLate :=
  List.forall_mem_singleton.2 nofun

theorem isLate_of_mem_contentRequests {entry : SourceEntry} :
    ∀ request ∈ contentRequests entry, request.IsLate := by
  unfold contentRequests
  split
  next => exact List.forall_mem_singleton.2 nofun
  next => simp

theorem isLate_of_mem_readRequests : ∀ request ∈ readRequests path, request.IsLate :=
  List.forall_mem_singleton.2 nofun

theorem isLate_of_mem_openRequests : ∀ request ∈ openRequests path state, request.IsLate := by
  refine List.forall_mem_cons.2 ⟨nofun, ?_⟩
  split
  next => exact List.forall_mem_singleton.2 nofun
  next => simp

theorem raise_of_mem_modeRequests {destination : Path} :
    ∀ request ∈ modeRequests path destination state,
      request.raise = .fileNotWritten destination := by
  refine List.forall_mem_cons.2 ⟨rfl, ?_⟩
  split
  next => exact List.forall_mem_singleton.2 rfl
  next => simp

/-! ### The calls of a walk -/

section

variable (grounded : Grounded task before)
  (undisturbed : Undisturbed before task.source task.twin) (real : task.options.dryRun = false)

/-- While a file is written, the writing of this file is what has begun. -/
theorem writeCourse_withstands {file : SourceFile} {raw : List UInt8} {mode : Nat}
    {text : List Char} (real : task.options.dryRun = false) (advanced : Advanced task before state)
    (beneath : Path.Beneath (task.path file) task.source (file.names ++ [file.name]))
    (taken : file ∈ task.taken before file.names)
    (lands : state.fileSystem.prospect (task.record file).destination = task.goal before file)
    (shown : before.stat (task.path file) = .ok (.file raw mode))
    (decoded : Utf8.decode? raw = some text) :
    (writeCourse (task.path file) (task.record file).destination
      (Utf8.encode (adapt task.rules (task.record file).stripped text))).Withstands
        (Pending task before) state := by
  have sound := advanced.sound
  have goal_eq : before.prospect (task.record file).destination = task.goal before file :=
    (sound.evolves.prospect_eq _).symm.trans lands
  have writing : ∀ {made : FileSystem} {requests : List Request},
      BegunAt (Utf8.encode (adapt task.rules (task.record file).stripped text))
        (task.goal before file) state.fileSystem made →
      (∀ request ∈ requests, request.raise = .fileNotWritten (task.record file).destination) →
      ∀ request ∈ requests, Pending task before request { state with fileSystem := made } :=
    fun begun raises request member =>
      .writing (raises request member) advanced.interrupted taken goal_eq shown decoded rfl begun
  unfold writeCourse
  refine withstands_act_bind (advanced.pending isLate_of_mem_openRequests)
    (meets_change (fun writable opened => ?_) trivial)
  have begun : ∀ content, BegunAt content (task.goal before file) state.fileSystem writable :=
    fun _ => lands ▸ begunAt_of_ensureWritable opened
  refine withstands_act_bind (writing (begun _) (List.forall_mem_singleton.2 rfl))
    (meets_change (fun filled written => ?_) trivial)
  -- A file that stands in the place is shown there, so it has been opened before it was written.
  have stored := begunAt_of_writeFile sound.wellFormed
    (fun object accepted there => sound.lstat_file real beneath accepted (lands ▸ there))
    opened written
  exact withstands_act (writing (lands ▸ stored) raise_of_mem_modeRequests)

include grounded undisturbed real

theorem depositCourse_withstands
    (beneath : Path.Beneath (task.source.extend names) task.source names)
    (member : found ∈ task.listed before names .file)
    (takes : task.Takes before (.ofEntry (task.source.extend names) found))
    (advanced : Advanced task before state) :
    (depositCourse task (task.source.extend names) (task.path ⟨names, found.1⟩)
      (task.record ⟨names, found.1⟩).destination).Withstands (Pending task before) state := by
  obtain ⟨standing, same⟩ := (task.mem_listed_iff grounded.wellFormed).1 member
  have plain : IsPlain found.1 :=
    grounded.wellFormed.isPlain standing found.1 (by simp [Task.stand])
  have inside : Path.Beneath (task.path ⟨names, found.1⟩) task.source (names ++ [found.1]) :=
    beneath.join plain
  have behind : Path.Beneath (task.record ⟨names, found.1⟩).destination task.twin
      (task.renamed names found.1) := Placement.beneath_file grounded.replaced inside
  have taken : (⟨names, found.1⟩ : SourceFile) ∈ task.taken before names :=
    List.mem_map.2 ⟨found, List.mem_filter.2 ⟨member, decide_eq_true takes⟩, rfl⟩
  unfold depositCourse
  refine withstands_act_bind (advanced.pending isLate_of_mem_safetyRequests)
    (meets_requireSafe (fun safe => ?_) trivial)
  refine withstands_act_bind (advanced.pending isLate_of_mem_readRequests)
    (meets_ask (fun text read => ?_) trivial)
  simp only [real, Bool.false_eq_true, if_false]
  refine withstands_unasked_bind (meets_modify ?_)
  obtain ⟨shown, asked, _⟩ := bind_eq_ok_iff.1 read
  have entry := task.stand_append_singleton before names found.1 ▸ standing
  -- What has been read was there at the start, and the walk takes regular files only.
  have first := (advanced.sound.stat_eq grounded undisturbed beneath entry).symm.trans asked
  have regular := Progress.isRegular_of_takes grounded standing same takes first
  cases shown with
  | file raw mode =>
    have lands := advanced.sound.prospect_eq real behind safe
    have noted : ∀ level message,
        Advanced task before { state with journal := state.journal.note level message } :=
      fun _ _ => advanced.quiet ⟨rfl, rfl, rfl⟩
    refine Withstands.bind (writeCourse_withstands real (noted _ _) inside taken lands first
      (decode?_of_readText asked read)) ?_
    exact meets_trivial.mono (fun _ _ _ => withstands_unasked) fun _ => id
  | _ => cases regular

theorem copyCourse_withstands
    (beneath : Path.Beneath (task.source.extend names) task.source names)
    (standing : before.get? (task.stand before names) = some .directory)
    (member : found ∈ task.listed before names .file)
    (takes : task.Takes before (.ofEntry (task.source.extend names) found))
    (advanced : Advanced task before state) :
    (copyCourse task (task.source.extend names) (task.path ⟨names, found.1⟩)).Withstands
      (Pending task before) state := by
  have entry := ((task.mem_listed_iff grounded.wellFormed).1 member).1
  have plain : IsPlain found.1 :=
    grounded.wellFormed.isPlain entry found.1 (by simp [Task.stand])
  have inside : Path.Beneath (task.path ⟨names, found.1⟩) task.source (names ++ [found.1]) :=
    beneath.join plain
  obtain ⟨parent, above, higher⟩ : ∃ parent, (task.record ⟨names, found.1⟩).destination.parent? =
      some parent ∧ Path.Beneath parent task.twin names :=
    Placement.exists_parent?_file grounded.replaced inside
  unfold copyCourse
  dsimp only
  split
  next other found =>
    cases above.symm.trans found
    refine withstands_act_bind (advanced.pending isLate_of_mem_directoryRequests)
      ((materialize_meets grounded advanced.sound standing higher).mono ?_ fun _ _ => trivial)
    rintro _ ready ⟨kept, there⟩
    exact depositCourse_withstands grounded undisturbed real beneath member takes
      (advanced.progress (.of_kept kept there) (by simp))
  next missing => exact absurd above (missing parent)

theorem handleCourse_withstands
    (beneath : Path.Beneath (task.source.extend names) task.source names)
    (standing : before.get? (task.stand before names) = some .directory)
    (member : found ∈ task.listed before names .file) (advanced : Advanced task before state) :
    (handleCourse task (task.source.extend names)
      (.ofEntry (task.source.extend names) found)).Withstands (Pending task before) state := by
  unfold handleCourse
  refine withstands_unasked_bind (meets_modify ?_)
  split
  next => trivial
  next => exact withstands_unasked_bind (meets_modify (withstands_unasked))
  next selected =>
    refine withstands_unasked_bind (meets_modify ?_)
    have counted : Advanced task before
        { state with journal := (state.journal.count .addScanned).count .addMatched } :=
      advanced.quiet ⟨rfl, rfl, rfl⟩
    refine withstands_act_bind (counted.pending isLate_of_mem_contentRequests)
      ((hasContent_meets trivial).mono ?_ fun _ => id)
    rintro has asked ⟨quiet, content⟩
    split
    next holds =>
      have entry := ((task.mem_listed_iff grounded.wellFormed).1 member).1
      rw [task.stand_append_singleton] at entry
      have takes := (advanced.sound.takes_iff grounded undisturbed beneath entry).1
        ⟨selected, content.1 holds⟩
      exact copyCourse_withstands grounded undisturbed real beneath standing member takes
        (counted.quiet quiet)
    next => trivial

/-- Whatever call of a walk is to be made, the walk has made progress before it. -/
theorem walkCourse_withstands {depth : Nat}
    (standing : before.get? (task.stand before names) = some .directory)
    (advanced : Advanced task before state) :
    (walkCourse task depth (task.source.extend names)).Withstands (Pending task before) state := by
  induction depth generalizing names state with
  | zero => exact withstands_unasked
  | succ depth ih =>
    have plain : ∀ name ∈ names, IsPlain name := fun name member =>
      grounded.wellFormed.isPlain standing name (by simp [Task.stand, member])
    have beneath : Path.Beneath (task.source.extend names) task.source names := .extend plain
    unfold walkCourse
    refine withstands_enter_bind (advanced.pending isLate_of_mem_directoryRequests)
      ((materialize_meets grounded advanced.sound standing
        (Placement.beneath_directory beneath)).mono ?_ fun _ _ => trivial)
    rintro _ prepared ⟨kept, there⟩
    have entered := advanced.progress (.of_kept kept there) (by simp)
    refine withstands_act_bind (entered.pending isLate_of_mem_listRequests)
      ((list_meets trivial).mono ?_ fun _ => id)
    rintro listing listed ⟨quiet, entries, read, directories, files⟩
    -- The entries are those that the source had at the start, so both loops are over these.
    rw [readDirectory_eq_children grounded kept.sound beneath standing read,
      kept.sound.listed_eq grounded undisturbed beneath] at directories files
    refine withstands_forM_bind (entered.quiet quiet) ?_ fun copied advanced => ?_
    · intro entry within middle advanced
      rw [files] at within
      obtain ⟨found, member, rfl⟩ := List.mem_map.1 within
      refine ⟨handleCourse_withstands grounded undisturbed real beneath standing member advanced,
        ?_⟩
      rw [run_handleCourse]
      refine (handleFile_advances grounded undisturbed beneath advanced.sound member).mono
        (fun _ after further => advanced.progress further ?_) fun _ _ => trivial
      exact fun _ =>
        Task.mem_taken_of_mem_takenAmong (List.cons_subset.2 ⟨member, List.nil_subset _⟩)
    · -- A subdirectory is walked at the next depth, by the hypothesis of the induction.
      refine withstands_forM advanced fun entry within middle advanced => ?_
      rw [directories] at within
      obtain ⟨found, member, rfl⟩ := List.mem_map.1 within
      have asks := admits_advances grounded member advanced
      have path_eq : (SourceEntry.ofEntry (task.source.extend names) found).path =
          task.source.extend (names ++ [found.1]) :=
        (task.source.extend_append_singleton names found.1).symm
      rw [path_eq]
      constructor
      · refine withstands_unasked_bind (asks.mono ?_ fun _ => id)
        rintro admitted asked ⟨advanced, directory⟩
        split
        next holds => exact ih (directory holds) advanced
        next => trivial
      · rw [Course.run_bind, run_act]
        refine asks.bind ?_
        rintro admitted asked ⟨advanced, directory⟩
        split
        next holds =>
          rw [run_walkCourse]
          exact walk_advances grounded undisturbed (directory holds) advanced
        next => exact meets_pure advanced

end

/-- Whatever call of a real pass is to be made, nothing has changed before it, or the walk has made
progress. -/
theorem passCourse_withstands (wellFormed : fs.WellFormed) (descends : .parent ∉ twin.components)
    (replaced : PlainRenamings options.renamings) (undisturbed : Undisturbed fs source twin)
    (real : options.dryRun = false) :
    (passCourse source twin options policy).Withstands (Ventured source twin options policy fs)
      { fileSystem := fs } := by
  unfold passCourse
  refine withstands_act_bind (fun _ _ => .inl rfl) ((checkArguments_meets trivial).mono ?_
    fun _ => id)
  rintro _ _ ⟨rfl, isDirectory, apart⟩
  cases prepared : prepare source twin options policy with
  | error reason => exact withstands_unasked
  | ok task =>
    obtain ⟨rfl, rfl, rfl, rfl, _⟩ := eq_of_prepare prepared
    refine withstands_act_bind (fun _ _ => .inl rfl) (prepareRoot_meets.mono ?_
      fun _ _ => trivial)
    intro _ ready prepared'
    obtain ⟨grounded, _⟩ :=
      grounded_of_prepared wellFormed (anchored_of_descends wellFormed descends) replaced
        isDirectory apart prepared'
    have advanced : Advanced task fs ready :=
      ⟨_, _, progress_of_prepared grounded prepared', by simp⟩
    have walks : (walkCourse task depthLimit (task.source.extend [])).Withstands
        (Pending task fs) ready :=
      walkCourse_withstands grounded undisturbed real grounded.source advanced
    refine Withstands.bind (walks.mono fun request state pending => ?_) ?_
    · exact .inr ⟨task, prepared, grounded, pending⟩
    · exact meets_trivial.mono (fun _ _ _ => withstands_unasked) fun _ => id

end Pass

end TwinTree
