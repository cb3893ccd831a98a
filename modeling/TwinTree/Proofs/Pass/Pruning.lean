import TwinTree.Proofs.Pass.Growth
import TwinTree.Proofs.Pass.Unhindered

/-!
# Walks that leave more out

A walk with further exclusions goes along with the walk without them, and stands still while that
one is busy with what it leaves out. It needs nothing that only the other one makes, and comes to
nothing that the other one does not come to. So it ends well where that one does, and what it has
made, recorded and warned of is within what that one has (`follows_walk_pruned`).
-/
namespace TwinTree

open FileSystem

/-- A task that differs from another one in its exclusions only, and leaves out what that one leaves
out. -/
structure Task.Prunes (pruned task : Task) : Prop where
  alike : ∃ directories files readDirectories readFiles, pruned =
    { task with
      options := { task.options with excludedDirectories := directories, excludedFiles := files }
      excludedDirectories := readDirectories
      excludedFiles := readFiles }
  directories : ∀ name, task.excludedDirectories.excludes name = true →
    pruned.excludedDirectories.excludes name = true
  files : ∀ name, task.excludedFiles.excludes name = true →
    pruned.excludedFiles.excludes name = true

theorem Task.Prunes.refl (task : Task) : task.Prunes task :=
  ⟨⟨_, _, _, _, rfl⟩, fun _ => id, fun _ => id⟩

/-- The path of the directory of the twin to which some names lead. -/
abbrev Task.counterpart (task : Task) (names : List Name) : Path :=
  Placement.directory task.source task.twin (task.source.extend names)

theorem Task.Visits.beneath_counterpart {task : Task} {before : FileSystem} {names : List Name}
    (visits : task.Visits before names) (wellFormed : before.WellFormed) :
    Path.Beneath (task.counterpart names) task.twin names :=
  Placement.beneath_directory (.extend (visits.isPlain wellFormed))

/-- A walk knows the directory of the twin to which some names lead. -/
def Task.Knows (task : Task) (names : List Name) (state : State) : Prop :=
  ∃ known ∈ state.materialized, Path.Beneath known task.twin names

/-- The paths by which a walk inspects and makes a directory of the twin are accepted. -/
structure Task.Passable (task : Task) (before : FileSystem) (names : List Name) : Prop where
  inspected : (before.absolutize task.twin).Accepted names
  made : checkText (task.counterpart names) pathLimit = .ok ()

/-- All directories beneath the root of the twin that a walk knows are passable. -/
def Task.Surveyed (task : Task) (before : FileSystem) (state : State) : Prop :=
  ∀ names, task.Knows names state → names = [] ∨ task.Passable before names

/-- How the state of a walk that leaves more out stands to that of the other one. -/
structure Within (task : Task) (before : FileSystem) (state state' : State) : Prop where
  -- All that the second walk has done to files could have been a stage of the first one.
  files : Evolves (fun _ _ => True) state'.fileSystem state.fileSystem
  records : state'.journal.report.records.Sublist state.journal.report.records
  warnings : state'.journal.report.warnings.Sublist state.journal.report.warnings
  surveyed : task.Surveyed before state
  root : task.Knows [] state'

/-- The states of a walk and of one that goes along with it, leaving more out. -/
abbrev Shadows (task : Task) (before : FileSystem) : State → State → Prop :=
  InStep task task.options.dryRun before (Within task before)

/-- A walk has come from one state to another. -/
structure Onward (state after : State) : Prop extends Grown false state after where
  evolves : Evolves (fun _ _ => True) state.fileSystem after.fileSystem

namespace Onward

variable {state middle after : State}

theorem refl (wellFormed : state.fileSystem.WellFormed) : Onward state state :=
  ⟨.refl state, .refl wellFormed⟩

theorem trans (first : Onward state middle) (second : Onward middle after) : Onward state after :=
  ⟨first.toGrown.trans second.toGrown, first.evolves.trans second.evolves⟩

theorem of_quiet (wellFormed : state.fileSystem.WellFormed) (quiet : Pass.Quiet state after)
    (grown : Grown false state after) : Onward state after where
  toGrown := grown
  evolves := by
    rw [quiet.files]
    exact .refl wellFormed

theorem knows {task : Task} {names : List Name} (onward : Onward state after)
    (knows : task.Knows names state) : task.Knows names after := by
  obtain ⟨known, member, beneath⟩ := knows
  exact ⟨known, onward.known.subset member, beneath⟩

end Onward

/-- Two walks, one of which leaves more out, have come from two states to two others. -/
structure Along (task : Task) (before : FileSystem) (ahead behind state state' : State) : Prop where
  shadows : Shadows task before state state'
  leader : Onward ahead state
  follower : Onward behind state'

namespace Along

variable {task : Task} {before : FileSystem} {ahead behind state state' after after' other : State}

theorem refl (shadows : Shadows task before state state') :
    Along task before state state' state state' :=
  ⟨shadows, .refl shadows.ahead.wellFormed, .refl shadows.behind.wellFormed⟩

theorem trans (first : Along task before ahead behind state state')
    (second : Along task before state state' after after') :
    Along task before ahead behind after after' :=
  ⟨second.shadows, first.leader.trans second.leader, first.follower.trans second.follower⟩

/-- The first walk may go on while the second one only takes a note. -/
theorem alone {journal : Journal} (along : Along task before ahead behind state other)
    (shadows : Shadows task before ahead behind)
    (records : journal.report.records = behind.journal.report.records)
    (warnings : journal.report.warnings = behind.journal.report.warnings)
    (log : behind.journal.log <+: journal.log) :
    Along task before ahead behind state { behind with journal := journal } where
  shadows := by
    refine ⟨along.shadows.ahead, shadows.behind.congr rfl rfl, ?_⟩
    obtain ⟨files, recorded, warned, _, root⟩ := shadows.related
    refine ⟨files.trans along.leader.evolves, ?_, ?_, along.shadows.related.surveyed, root⟩
    · rw [records]
      exact recorded.trans along.leader.records.sublist
    · rw [warnings]
      exact warned.trans along.leader.warnings.sublist
  leader := along.leader
  follower :=
    { files := fun _ => rfl
      known := List.prefix_rfl
      records := by rw [records]
      warnings := by rw [warnings]
      log := log
      evolves := .refl shadows.behind.wellFormed }

end Along

/-- What both walks note keeps one within the other. -/
theorem tandem_within {task : Task} {before : FileSystem} (grounded : Grounded task before)
    (undisturbed : Undisturbed before task.source task.twin) :
    Tandem task task.options.dryRun before (Within task before) where
  grounded := grounded
  grounded' := grounded
  undisturbed := undisturbed
  routine := by
    rintro state state' change routine ⟨files, records, warnings, surveyed, root⟩
    cases routine with
    | warn warning => exact ⟨files, records, warnings.append_right _, surveyed, root⟩
    | _ => exact ⟨files, records, warnings, surveyed, root⟩

namespace Pass

variable {pruned task : Task} {before : FileSystem} {state state' after : State}
  {directory path : Path} {names : List Name} {name : Name} {object : Object}
  {found : Name × Object} {file : SourceFile} {entry : SourceEntry}

/-! ### What is left out -/

theorem selection_pruned (prunes : pruned.Prunes task) (name : List Char) :
    Selection.ofName pruned.options pruned.excludedFiles name =
        Selection.ofName task.options task.excludedFiles name ∨
      Selection.ofName pruned.options pruned.excludedFiles name = .skipped := by
  have more := prunes.files name
  obtain ⟨_, _, _, _, rfl⟩ := prunes.alike
  simp only [Selection.ofName]
  split
  next => exact .inl rfl
  next =>
    split
    next => exact .inr rfl
    next selected =>
      rw [Bool.or_eq_true, not_or] at selected
      have passed : ¬ task.excludedFiles.excludes name = true := fun excluded =>
        selected.2 (more excluded)
      exact .inl (by simp [selected.1, passed])

/-- A file is handled as without the further exclusions, or skipped. -/
theorem handleFile_pruned (prunes : pruned.Prunes task) :
    handleFile pruned directory entry = handleFile task directory entry ∨
      handleFile pruned directory entry = (do
        count .addScanned
        note .debug ("Skipped " ++ entry.path.display)
        count .addSkipped) := by
  rcases selection_pruned prunes entry.name with same | skipped
  · left
    unfold handleFile
    rw [same]
    obtain ⟨_, _, _, _, rfl⟩ := prunes.alike
    rfl
  · right
    unfold handleFile
    rw [skipped]

/-- A subdirectory is judged as without the further exclusions, or excluded. -/
theorem admits_pruned (prunes : pruned.Prunes task) :
    admits pruned entry = admits task entry ∨ admits pruned entry = (do
      note .debug ("Excluded " ++ entry.path.display)
      return false) := by
  have more := prunes.directories entry.name
  simp only [admits]
  split
  next => exact .inl rfl
  next =>
    split
    next => exact .inr rfl
    next passed =>
      left
      rw [if_neg fun excluded => passed (more excluded)]

/-- Directories of the twin are accounted for as without the further exclusions. -/
theorem materialize_pruned (prunes : pruned.Prunes task) :
    materialize pruned (Placement.directory pruned.source pruned.twin directory) =
      materialize task (Placement.directory task.source task.twin directory) := by
  obtain ⟨_, _, _, _, rfl⟩ := prunes.alike
  rfl

/-! ### Directories of the twin -/

theorem run_materialize_of_knows (knows : task.Knows names state)
    (beneath : Path.Beneath path task.twin names) :
    EStateM.run (materialize task path) state = .ok () state := by
  obtain ⟨known, member, alike⟩ := knows
  exact run_materialize_of_known
    ⟨known, member, alike.components_eq.trans beneath.components_eq.symm⟩

/-- Accounting for a directory warns of nothing, and makes it known. -/
theorem materialize_notes (beneath : Path.Beneath path task.twin names) :
    Meets (materialize task path) state
      (fun _ after => after.journal.report.warnings = state.journal.report.warnings ∧
        task.Knows names after) fun _ => True := by
  unfold materialize
  refine meets_isMaterialized_bind ?_
  split
  next found =>
    obtain ⟨known, member, same⟩ := List.any_eq_true.1 found
    have same : known.Same path := by simpa using same
    exact meets_pure ⟨rfl, known, member, beneath.plain, same.trans beneath.components_eq⟩
  next unknown =>
    refine meets_requireSafe_bind (fun _ => ?_) trivial
    split
    next => exact meets_modify_bind (meets_modify ⟨rfl, path, by simp, beneath⟩)
    next =>
      refine (ensureDirectory_meets (by simpa using unknown) trivial).bind ?_
      rintro isNew after ⟨rfl, _, known, journal⟩
      rw [if_pos rfl]
      have warnings := congrArg (·.report.warnings) journal
      exact meets_modify_bind (meets_modify ⟨warnings, path, by simp [known], beneath⟩)

theorem composes_grows_of_real (real : task.options.dryRun = false) :
    Composes task.options.dryRun (Grows false) := by
  rw [real]
  exact composes_grows false

section Directories

variable (grounded : Grounded task before) (real : task.options.dryRun = false)
  (visits : task.Visits before names)

include grounded real visits

/-- A directory that has been found safe and has been created is passable. -/
theorem passable_of_created {last : FileSystem} (sound : Sound task before state)
    (enclosed : state.fileSystem.get? (task.place before names.dropLast) = some .directory)
    (named : names ≠ [])
    (safe : state.fileSystem.checkSafe (task.counterpart names) task.twin = .ok ())
    (created : state.fileSystem.createDirectories (task.counterpart names) = (last, .ok ())) :
    task.Passable before names := by
  have beneath := visits.beneath_counterpart grounded.wellFormed
  obtain ⟨_, _, leads⟩ := sound.root real
  have accepted := ((checkSafe_eq_ok_iff sound.wellFormed beneath enclosed leads).1 safe).1
  rw [absolutize, sound.evolves.working, ← absolutize] at accepted
  have nonempty : (task.counterpart names).bytes ≠ [] := by
    intro empty
    have nothing := beneath.components_eq
    rw [Path.components_eq_nil_iff.2 empty] at nothing
    simp [named] at nothing
  have directory := isDirectory_of_createDirectories nonempty created
  exact ⟨accepted, (isDirectory_iff.1 directory).1⟩

/-- Accounting for a directory shows that it is passable. -/
theorem materialize_surveys (sound : Sound task before state)
    (surveyed : task.Surveyed before state)
    (enclosed : state.fileSystem.get? (task.place before names.dropLast) = some .directory) :
    Meets (materialize task (task.counterpart names)) state
      (fun _ after => task.Surveyed before after) fun _ => True := by
  have beneath := visits.beneath_counterpart grounded.wellFormed
  unfold materialize
  refine meets_isMaterialized_bind ?_
  split
  next => exact meets_pure surveyed
  next unknown =>
    refine meets_requireSafe_bind (fun safe => ?_) trivial
    rw [if_neg (by simp [real])]
    have ensured : Meets (ensureDirectory (task.counterpart names)) state
        (fun _ after => task.Surveyed before after) fun _ => True := by
      refine (ensureDirectory_meets (by simpa using unknown) trivial).mono ?_ fun _ => id
      rintro _ after ⟨_, created, known, _⟩ others ⟨path, member, alike⟩
      rw [known] at member
      rcases List.mem_append.1 member with old | new
      · exact surveyed others ⟨path, old, alike⟩
      · rw [List.mem_singleton.1 new] at alike
        obtain rfl := beneath.unique alike
        exact or_iff_not_imp_left.2 fun named =>
          passable_of_created grounded real visits sound enclosed named safe created
    refine ensured.bind fun _ _ surveyed => ?_
    split
    next => exact meets_modify_bind (meets_modify surveyed)
    next => exact meets_pure surveyed

variable (nonempty : task.source.bytes ≠ [])

include nonempty

/-- A passable directory is accounted for, where it is on the way to a file system that has it. -/
theorem materialize_ends_of_passable {last : FileSystem} {raised : Error → Prop}
    (sound : Sound task before state) (onward : Evolves (fun _ _ => True) state.fileSystem last)
    (root : task.Knows [] state) (passable : names = [] ∨ task.Passable before names)
    (enclosed : state.fileSystem.get? (task.place before names.dropLast) = some .directory)
    (there : last.get? (task.place before names) = some .directory) :
    Ends (materialize task (task.counterpart names)) state (fun _ _ => True) raised := by
  have beneath := visits.beneath_counterpart grounded.wellFormed
  by_cases named : names = []
  · subst named
    exact ends_of_run (run_materialize_of_knows root beneath) trivial
  have passable := passable.resolve_left named
  have inside : Path.Beneath (task.source.extend names) task.source names :=
    .extend (visits.isPlain grounded.wellFormed)
  have solid : ¬ (task.counterpart names).EndsInDot :=
    Placement.not_endsInDot_directory inside nonempty fun empty => absurd empty named
  have free := (onward.developed (task.place before names)).of_directory there
  obtain ⟨_, _, leads⟩ := sound.root real
  have safe : state.fileSystem.checkSafe (task.counterpart names) task.twin = .ok () := by
    refine (checkSafe_eq_ok_iff sound.wellFormed beneath enclosed leads).2
      ⟨?_, fun target link => ?_⟩
    · rw [absolutize, sound.evolves.working, ← absolutize]
      exact passable.inspected
    · cases ((onward.developed _).link_iff.1 link).symm.trans there
  exact materialize_ends_of_free sound real beneath (visits.isOrdinary grounded.wellFormed)
    passable.made safe enclosed free.symm (.inl solid)

/-- Both walks account for the directory that they come to. -/
theorem follows_materialize_pruned (shadows : Shadows task before state state')
    (enclosed : state'.fileSystem.get? (task.place before names.dropLast) = some .directory) :
    Follows (materialize task (task.counterpart names)) (materialize task (task.counterpart names))
      state state' fun _ after _ after' => Along task before state state' after after' ∧
        task.Knows names after ∧ task.Knows names after' ∧
        after'.fileSystem.get? (task.place before names) = some .directory := by
  obtain ⟨sound, sound', within⟩ := shadows
  have sound' : Sound task before state' := sound'
  have beneath := visits.beneath_counterpart grounded.wellFormed
  have grows : Grows false (materialize task (task.counterpart names)) :=
    (composes_grows_of_real real).covers.materialize
  have prepares : ∀ {moment : State}, Sound task before moment →
      Meets (materialize task (task.counterpart names)) moment _ fun _ => True := fun sound =>
    (grows.meets ((materialize_meets grounded sound visits.1 beneath).and
      (materialize_notes beneath)).forget)
  refine Follows.of_ends ((prepares sound).and (materialize_surveys grounded real visits sound
    within.surveyed (within.files.directory enclosed))).forget ?_
  rintro _ after ⟨⟨⟨⟨kept, there⟩, _, knows⟩, grown⟩, surveyed⟩
  -- The first walk knows the directory now, so it is passable, and is there for the second as well
  -- as soon as that one has accounted for it.
  have onward := within.files.trans (kept.evolves.mono fun _ _ _ => trivial)
  refine (Ends.knowing (prepares sound') (materialize_ends_of_passable grounded real visits nonempty
    sound' onward within.root (surveyed names knows) enclosed (there real))).mono ?_ fun _ => id
  rintro _ after' ⟨⟨⟨⟨kept', there'⟩, warnings, knows'⟩, grown'⟩, _⟩
  have leader : Onward state after := ⟨grown, kept.evolves.mono fun _ _ _ => trivial⟩
  have follower : Onward state' after' := ⟨grown', kept'.evolves.mono fun _ _ _ => trivial⟩
  refine ⟨⟨⟨kept.sound, kept'.sound, ?_⟩, leader, follower⟩, knows, knows', there' real⟩
  refine ⟨onward.catch_up kept'.evolves fun _ _ _ made => ?_, ?_, ?_, surveyed,
    follower.knows within.root⟩
  · exact made.developed kept.sound.wellFormed (there real)
  · rw [kept.records, kept'.records]
    exact within.records
  · rw [warnings]
    exact within.warnings.trans grown.warnings.sublist

end Directories

/-! ### Files -/

section Files

variable (grounded : Grounded task before) (undisturbed : Undisturbed before task.source task.twin)
  (real : task.options.dryRun = false)

/-- What the copying of a file makes could become what copying it has left elsewhere. -/
theorem developed_of_copied {last made : FileSystem} {content content' : List UInt8}
    {mode mode' : Nat} {old : Option Object} {location : Location} (wellFormed : last.WellFormed)
    (there : last.get? (task.goal before file) =
      some ((Object.file content mode).inPlaceOf old))
    (there' : made.get? (task.goal before file) =
      some ((Object.file content' mode').inPlaceOf old))
    (found : made.get? location = some object)
    (within : MadeDownTo (task.place before file.names) location object ∨
      WrittenFor task before file.names file.name location object) :
    Developed (some object) (last.get? location) := by
  rcases within with directory | ⟨⟨⟩⟩
  · rw [task.goal_eq] at there
    exact directory.developed wellFormed (wellFormed.get?_tail there)
  · have placed : last.get? (task.place before (task.renamed file.names file.name)) = _ := there
    rw [placed, found.symm.trans there']
    exact .refilled old

include grounded

/-- Where its directory is known, copying a file begins with the check of its place. -/
theorem run_copy_of_knows (taken : file ∈ task.taken before file.names)
    (knows : task.Knows file.names state) :
    EStateM.run (copy task (task.source.extend file.names) (task.path file)) state =
      EStateM.run (do
        requireSafe task (task.record file).destination
        let text ← ask (·.readText (task.path file)) (.fileNotRead (task.path file))
        finish task (task.path file) (task.record file).destination
          (Utf8.encode (adapt task.rules (task.record file).stripped text))
          (task.record file).stripped) state := by
  obtain ⟨parent, found, above⟩ : ∃ parent, (Placement.file task.source task.twin
      task.options.renamings (task.path file)).parent? = some parent ∧
      Path.Beneath parent task.twin file.names :=
    Placement.exists_parent?_file grounded.replaced
      (task.beneath_of_mem_taken grounded.wellFormed taken)
  rw [copy_eq task _ _ parent found, run_bind, run_materialize_of_knows knows above]
  rfl

include real

/-- A file is copied only where its place is safe; this warns of nothing, and where its directory is
known, none becomes known. -/
theorem copy_notes (taken : file ∈ task.taken before file.names)
    (knows : task.Knows file.names state) :
    Meets (copy task (task.source.extend file.names) (task.path file)) state
      (fun _ after =>
        state.fileSystem.checkSafe (task.record file).destination task.twin = .ok () ∧
        after.materialized = state.materialized ∧
        after.journal.report.warnings = state.journal.report.warnings) fun _ => True := by
  unfold Meets
  rw [run_copy_of_knows grounded taken knows]
  refine meets_requireSafe_bind (fun safe => meets_ask_bind (fun text _ => ?_) trivial) trivial
  rw [finish_of_real real]
  refine meets_modify_bind (write_meets_journal.bind ?_)
  rintro _ after ⟨journal, known⟩
  exact meets_modify ⟨safe, known, congrArg (·.report.warnings) journal⟩

include undisturbed

/-- A file that the first walk has copied can be copied by the second one. -/
theorem copy_ends_of_copied {raised : Error → Prop} (visits : task.Visits before file.names)
    (taken : file ∈ task.taken before file.names) (shadows : Shadows task before state state')
    (knows : task.Knows file.names state')
    (enclosed : state'.fileSystem.get? (task.place before file.names) = some .directory)
    (safe : state.fileSystem.checkSafe (task.record file).destination task.twin = .ok ())
    (copied : Copied task before (task.source.extend file.names) (task.path file) file.names
      file.name state after) :
    Ends (copy task (task.source.extend file.names) (task.path file)) state' (fun _ _ => True)
      raised := by
  obtain ⟨sound, sound', within⟩ := shadows
  have sound' : Sound task before state' := sound'
  have inside : Path.Beneath (task.source.extend file.names) task.source file.names :=
    .extend (visits.isPlain grounded.wellFormed)
  have below := task.beneath_of_mem_taken grounded.wellFormed taken
  obtain ⟨object, standing, _⟩ := task.exists_standing_of_mem_taken grounded.wellFormed taken
  obtain ⟨reading, text, soundReading, read, written⟩ := copied.written real
  obtain ⟨_, _, _, _, there⟩ := written.exists_mode
  have there : after.fileSystem.get? (task.goal before file) =
      some ((Object.file _ _).inPlaceOf (before.get? (task.goal before file))) := there
  have onward : Evolves (fun _ _ => True) state'.fileSystem after.fileSystem :=
    within.files.trans (copied.evolves.mono fun _ _ _ => trivial)
  -- What the first walk has left in the place shows that nothing is in the way of the second.
  have free := (onward.developed (task.goal before file)).of_written there
  have named : IsOrdinary (Placement.fileName task.options.renamings file.name) := by
    rw [task.goal_eq] at there
    exact copied.sound.wellFormed.isOrdinary there _ List.mem_cons_self
  have safe' : state'.fileSystem.checkSafe (task.record file).destination task.twin = .ok () := by
    refine checkSafe_again real sound sound' (Placement.beneath_file grounded.replaced below) ?_ ?_
      (fun target link => ?_) safe
    · rw [List.dropLast_concat]
      exact within.files.directory enclosed
    · rwa [List.dropLast_concat]
    · exact ne_link_of_get?_inPlaceOf there ((onward.developed _).link_iff.1 link)
  -- Both walks read what the source has held from the start.
  have read' : state'.fileSystem.readText (task.path file) = .ok text := by
    rw [← read, readText, readText]
    congr 1
    exact (sound'.stat_eq grounded undisturbed inside standing).trans
      (soundReading.stat_eq grounded undisturbed inside standing).symm
  obtain ⟨target, shown, _⟩ := bind_eq_ok_iff.1 read'
  unfold Ends
  rw [run_copy_of_knows grounded taken knows]
  apply ends_requireSafe_bind safe'
  refine ends_ask_bind (fun text _ => ?_) fun failure refused => ?_
  · rw [finish_of_real real]
    apply ends_modify_bind
    refine Ends.bind (store_ends_of_free (sound'.congr rfl rfl) real below named written.accepted
      enclosed free shown) fun _ _ _ => ?_
    exact ends_modify trivial
  · cases read'.symm.trans refused

/-- Both walks copy a file, if both have accounted for its directory. -/
theorem follows_copy_pruned (visits : task.Visits before file.names)
    (taken : file ∈ task.taken before file.names) (shadows : Shadows task before state state')
    (knows : task.Knows file.names state) (knows' : task.Knows file.names state')
    (enclosed : state'.fileSystem.get? (task.place before file.names) = some .directory) :
    Follows (copy task (task.source.extend file.names) (task.path file))
      (copy task (task.source.extend file.names) (task.path file)) state state'
      fun _ after _ after' => Shadows task before after after' := by
  obtain ⟨object, standing, noDirectory⟩ :=
    task.exists_standing_of_mem_taken grounded.wellFormed taken
  rw [← task.stand_append_singleton] at standing
  have inside : Path.Beneath (task.source.extend file.names) task.source file.names :=
    .extend (visits.isPlain grounded.wellFormed)
  have grows : Grows false (copy task (task.source.extend file.names) (task.path file)) :=
    (composes_grows_of_real real).covers.copy
  have copies : ∀ {moment : State}, Sound task before moment → task.Knows file.names moment →
      Meets (copy task (task.source.extend file.names) (task.path file)) moment _ fun _ => True :=
    fun sound knows => grows.meets ((copy_meets grounded sound standing noDirectory inside).and
      (copy_notes grounded real taken knows)).forget
  refine Follows.of_ends (copies shadows.ahead knows) ?_
  rintro _ after ⟨⟨copied, safe, known, _⟩, grown⟩
  refine (Ends.knowing (copies shadows.behind knows') (copy_ends_of_copied grounded undisturbed real
    visits taken shadows knows' enclosed safe copied)).mono ?_ fun _ => id
  rintro _ after' ⟨⟨⟨copied', _, known', warnings⟩, _⟩, _⟩
  -- Both have appended one record; the second one has caught up on what is new in the twin.
  obtain ⟨files, recorded, warned, surveyed, root, member, alike⟩ := shadows.related
  obtain ⟨_, _, _, _, written⟩ := copied.written real
  obtain ⟨_, _, _, _, there⟩ := written.exists_mode
  obtain ⟨_, _, _, _, written'⟩ := copied'.written real
  obtain ⟨_, _, _, _, there'⟩ := written'.exists_mode
  have onward := files.trans (copied.evolves.mono fun _ _ _ => trivial)
  refine ⟨copied.sound, copied'.sound, onward.catch_up copied'.evolves fun _ _ found made => ?_,
    ?_, ?_, ?_, root, known' ▸ member, alike⟩
  · exact developed_of_copied copied.sound.wellFormed there there' found made
  · rw [copied.records, copied'.records]
    exact recorded.append_right _
  · rw [warnings]
    exact warned.trans grown.warnings.sublist
  · rintro others ⟨path, member, alike⟩
    exact surveyed others ⟨path, known ▸ member, alike⟩

/-- Both walks handle a file, if both have accounted for its directory. -/
theorem follows_handleFile_again (visits : task.Visits before names)
    (listed : (name, object) ∈ task.listed before names .file)
    (shadows : Shadows task before state state')
    (knows : task.Knows names state) (knows' : task.Knows names state')
    (enclosed : state'.fileSystem.get? (task.place before names) = some .directory) :
    Follows
      (handleFile task (task.source.extend names)
        (.ofEntry (task.source.extend names) (name, object)))
      (handleFile task (task.source.extend names)
        (.ofEntry (task.source.extend names) (name, object))) state state'
      fun _ after _ after' => Along task before state state' after after' := by
  obtain ⟨standing, same⟩ := (task.mem_listed_iff grounded.wellFormed).1 listed
  have inside : Path.Beneath (task.source.extend names) task.source names :=
    .extend (visits.isPlain grounded.wellFormed)
  have grows : Grows false (handleFile task (task.source.extend names)
      (.ofEntry (task.source.extend names) (name, object))) :=
    (composes_grows_of_real real).covers.handleFile
  have handles : ∀ {moment : State}, Sound task before moment →
      Meets (handleFile task (task.source.extend names)
        (.ofEntry (task.source.extend names) (name, object))) moment
        (fun _ after => Onward moment after) fun _ => True := by
    intro moment sound
    refine ((handleFile_meets grounded sound standing (isDirectory_eq_false_of_kind same) inside
      rfl).and (grows moment)).mono ?_ fun _ _ => trivial
    rintro _ after ⟨handled, grown⟩
    exact ⟨grown, handled.evolves sound⟩
  refine Follows.mono (.of_leader (handles shadows.ahead) (.of_follower (handles shadows.behind)
    (follows_handleFile (tandem_within grounded undisturbed) visits listed shadows ?_))) ?_
  · intro asked asked' quiet quiet' shadows taken
    exact follows_copy_pruned grounded undisturbed real visits taken shadows
      (by simpa only [Task.Knows, quiet.known] using knows)
      (by simpa only [Task.Knows, quiet'.known] using knows')
      (by rwa [quiet'.files])
  · rintro _ after _ after' ⟨leader, follower, shadows⟩
    exact ⟨shadows, leader, follower⟩

/-- The second walk handles a file like the first one, or skips it. -/
theorem follows_file_pruned (prunes : pruned.Prunes task) (visits : task.Visits before names)
    (listed : (name, object) ∈ task.listed before names .file)
    (shadows : Shadows task before state state')
    (knows : task.Knows names state) (knows' : task.Knows names state')
    (enclosed : state'.fileSystem.get? (task.place before names) = some .directory) :
    Follows
      (handleFile task (task.source.extend names)
        (.ofEntry (task.source.extend names) (name, object)))
      (handleFile pruned (task.source.extend names)
        (.ofEntry (task.source.extend names) (name, object))) state state'
      fun _ after _ after' => Along task before state state' after after' := by
  have handles :=
    follows_handleFile_again grounded undisturbed real visits listed shadows knows knows' enclosed
  rcases handleFile_pruned prunes with same | skips
  · rw [same]
    exact handles
  · -- The first walk goes on alone, past what the second one only counts.
    rw [skips]
    exact handles.instead rfl fun _ _ _ _ along =>
      along.alone shadows rfl rfl (List.prefix_append ..)

/-- Both walks go through the files of a directory. -/
theorem follows_files_pruned {files : List SourceEntry} (prunes : pruned.Prunes task)
    (visits : task.Visits before names)
    (listed : files =
      (task.listed before names .file).map (.ofEntry (task.source.extend names)))
    (shadows : Shadows task before state state')
    (knows : task.Knows names state) (knows' : task.Knows names state')
    (enclosed : state'.fileSystem.get? (task.place before names) = some .directory) :
    Follows (files.forM (handleFile task (task.source.extend names)))
      (files.forM (handleFile pruned (task.source.extend names))) state state'
      fun _ after _ after' => Along task before state state' after after' := by
  refine follows_forM (.refl shadows) fun entry member middle middle' between => ?_
  rw [listed] at member
  obtain ⟨⟨name, object⟩, within, rfl⟩ := List.mem_map.1 member
  exact (follows_file_pruned grounded undisturbed real prunes visits within between.shadows
    (between.leader.knows knows) (between.follower.knows knows')
    (between.follower.evolves.directory enclosed)).mono fun _ _ _ _ => between.trans

end Files

/-! ### Whole walks -/

/-- How walks of a depth go along with each other, whichever directory they start from. -/
def WalksPrune (task : Task) (before : FileSystem) (depth : Nat) : Prop :=
  ∀ ⦃pruned names state state'⦄, pruned.Prunes task → task.Visits before names →
    Shadows task before state state' →
    state'.fileSystem.get? (task.place before names.dropLast) = some .directory →
    Follows (walk task depth (task.source.extend names))
      (walk pruned depth (task.source.extend names)) state state'
      fun _ after _ after' => Along task before state state' after after'

variable (grounded : Grounded task before) (undisturbed : Undisturbed before task.source task.twin)
  (real : task.options.dryRun = false) (nonempty : task.source.bytes ≠ [])

include grounded undisturbed real

/-- Where both walks judge a subdirectory alike, they enter it together or pass it by. -/
theorem follows_subdirectory_judged {depth : Nat} (deeper : WalksPrune task before depth)
    (prunes : pruned.Prunes task) (visits : task.Visits before names)
    (listed : found ∈ task.listed before names .directory)
    (shadows : Shadows task before state state')
    (enclosed : state'.fileSystem.get? (task.place before names) = some .directory)
    (judges : admits pruned (.ofEntry (task.source.extend names) found) =
      admits task (.ofEntry (task.source.extend names) found)) :
    Follows
      (do
        if ← admits task (.ofEntry (task.source.extend names) found) then
          walk task depth (SourceEntry.ofEntry (task.source.extend names) found).path)
      (do
        if ← admits pruned (.ofEntry (task.source.extend names) found) then
          walk pruned depth (SourceEntry.ofEntry (task.source.extend names) found).path)
      state state' fun _ after _ after' => Along task before state state' after after' := by
  obtain ⟨standing, same⟩ := (task.mem_listed_iff grounded.wellFormed).1 listed
  have grows : Grows false (admits task (.ofEntry (task.source.extend names) found)) :=
    (composes_grows_of_real real).admits
  rw [judges]
  have admitting : Follows _ (admits task (.ofEntry (task.source.extend names) found)) state
      state' _ := follows_admits (tandem_within grounded undisturbed) shadows
  refine Follows.bind (.of_leader (grows.meets admits_meets)
    (.of_follower (grows.meets admits_meets) admitting)) ?_
  rintro admitted asked _ asked' ⟨⟨⟨quiet, enters⟩, grown⟩, ⟨⟨quiet', _⟩, grown'⟩, rfl, shadows'⟩
  have between : Along task before state state' asked asked' :=
    ⟨shadows', .of_quiet shadows.ahead.wellFormed quiet grown,
      .of_quiet shadows.behind.wellFormed quiet' grown'⟩
  split
  next admitted =>
    obtain ⟨entered, noLink⟩ := enters.1 admitted
    have directory : found.2 = .directory := eq_directory_of_kind same noLink
    have visited : task.Visits before (names ++ [found.1]) :=
      ⟨directory ▸ standing, List.forall_mem_append.2
        ⟨visits.2, List.forall_mem_singleton.2 entered⟩⟩
    have walks := deeper prunes visited shadows'
      (by rwa [List.dropLast_concat, quiet'.files])
    rw [Path.extend_append_singleton] at walks
    exact walks.mono fun _ _ _ _ => between.trans
  next => exact follows_pure between

/-- The second walk does with a subdirectory what the first one does, or leaves it out. -/
theorem follows_subdirectory_pruned {depth : Nat} (deeper : WalksPrune task before depth)
    (prunes : pruned.Prunes task) (visits : task.Visits before names)
    (listed : found ∈ task.listed before names .directory)
    (shadows : Shadows task before state state')
    (enclosed : state'.fileSystem.get? (task.place before names) = some .directory) :
    Follows
      (do
        if ← admits task (.ofEntry (task.source.extend names) found) then
          walk task depth (SourceEntry.ofEntry (task.source.extend names) found).path)
      (do
        if ← admits pruned (.ofEntry (task.source.extend names) found) then
          walk pruned depth (SourceEntry.ofEntry (task.source.extend names) found).path)
      state state' fun _ after _ after' => Along task before state state' after after' := by
  rcases admits_pruned prunes with judges | excludes
  · exact follows_subdirectory_judged grounded undisturbed real deeper prunes visits listed shadows
      enclosed judges
  · -- The first walk alone is followed by itself, and its follower may as well stand still.
    rw [excludes]
    exact (follows_subdirectory_judged grounded undisturbed real deeper (.refl task) visits listed
      shadows enclosed rfl).instead rfl fun _ _ _ _ along =>
        along.alone shadows rfl rfl (List.prefix_append ..)

include nonempty

/-- A walk that leaves more out goes along with one that leaves out less. -/
theorem follows_walk_pruned (depth : Nat) : WalksPrune task before depth := by
  -- The induction is on the depth, and `Shadows` is what one directory hands on to the next.
  induction depth with
  | zero => exact fun _ _ _ _ _ _ _ _ => follows_throw
  | succ depth ih =>
    intro pruned names state state' prunes visits shadows enclosed
    have inside : Path.Beneath (task.source.extend names) task.source names :=
      .extend (visits.isPlain grounded.wellFormed)
    unfold walk
    rw [materialize_pruned prunes]
    refine (follows_materialize_pruned grounded real visits nonempty shadows enclosed).bind ?_
    rintro _ prepared _ prepared' ⟨first, knows, knows', there⟩
    have sound : Sound task before prepared := first.shadows.ahead
    have grows : Grows false (list (task.source.extend names)) := (composes_grows_of_real real).list
    refine Follows.bind (.of_leader (grows.meets (list_meets trivial))
      (.of_follower (grows.meets (list_meets trivial))
        (follows_list (tandem_within grounded undisturbed) inside visits.1 first.shadows))) ?_
    rintro listing listed _ listed' ⟨⟨⟨quiet, entries, read, directories, files⟩, grown⟩,
      ⟨⟨quiet', _⟩, grown'⟩, rfl, shadows'⟩
    have second : Along task before prepared prepared' listed listed' :=
      ⟨shadows', .of_quiet sound.wellFormed quiet grown,
        .of_quiet first.shadows.behind.wellFormed quiet' grown'⟩
    rw [readDirectory_eq_children grounded sound inside visits.1 read,
      sound.listed_eq grounded undisturbed inside] at directories files
    have there := second.follower.evolves.directory there
    refine Follows.bind (follows_files_pruned grounded undisturbed real prunes visits files shadows'
      (second.leader.knows knows) (second.follower.knows knows') there) ?_
    rintro _ copied _ copied' third
    refine Follows.mono (follows_forM (.refl third.shadows)
      fun entry member middle middle' between => ?_)
      fun _ _ _ _ => ((first.trans second).trans third).trans
    rw [directories] at member
    obtain ⟨found, within, rfl⟩ := List.mem_map.1 member
    have there := (third.trans between).follower.evolves.directory there
    exact (follows_subdirectory_pruned grounded undisturbed real ih prunes visits within
      between.shadows there).mono fun _ _ _ _ => between.trans

end Pass

end TwinTree
