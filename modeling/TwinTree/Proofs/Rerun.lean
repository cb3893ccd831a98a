import TwinTree.Proofs.Destination.Acceptance
import TwinTree.Proofs.FileSystem.Repetition
import TwinTree.Proofs.Pass.Lockstep
import TwinTree.Proofs.Reproduction

/-!
# Running again

A second run on what the first one has left finds every directory made and every file written. It
goes along with the first run: it overwrites each file by what the first run wrote at the same
moment, and so ends with what the first run ended with (`rerun_reproduces`).
-/
namespace TwinTree

open FileSystem

/-- A file system holds all directories and files that a run comes to. -/
structure Settled (task : Task) (before last : FileSystem) : Prop where
  directories : ∀ trail, task.Visits before trail →
    last.get? (task.place before trail) = some .directory
  files : ∀ file : SourceFile, task.Visits before file.names → file ∈ task.taken before file.names →
    ∃ content mode, last.get? (task.goal before file) =
      some ((Object.file content mode).inPlaceOf (before.get? (task.goal before file)))

/-- What a first run has left is settled for the second one. -/
theorem Completed.settled {task : Task} {before : FileSystem} {trails : List (List Name)}
    {report : Report} {after : State} (completed : Completed task before trails report after)
    (real : task.options.dryRun = false) : Settled task before after.fileSystem where
  directories trail visits :=
    completed.progress.directories real trail (completed.mem_iff.2 visits)
  files _ visits taken :=
    completed.standing_goal real (completed.mem_files_iff.2 ⟨completed.mem_iff.2 visits, taken⟩)

/-- A second run has at a location what the first one has left there in the end, or the file that
the first run has there at the same moment. -/
def Alike (last ahead behind : FileSystem) (location : Location) : Prop :=
  behind.get? location = last.get? location ∨
    ∃ content mode old before, behind.get? location = some (.file content mode) ∧
      ahead.get? location = some (.file content mode) ∧ last.get? location = some (.file old before)

namespace Alike

variable {last ahead behind made written : FileSystem} {location target : Location}

theorem directory (alike : Alike last ahead behind location)
    (found : last.get? location = some .directory) : behind.get? location = some .directory := by
  rcases alike with same | ⟨_, _, _, _, _, _, file⟩
  · exact same.trans found
  · cases found.symm.trans file

theorem file {content : List UInt8} {mode : Nat} {former : Option Object}
    (alike : Alike last ahead behind location)
    (found : last.get? location = some ((Object.file content mode).inPlaceOf former)) :
    ∃ content mode, behind.get? location = some ((Object.file content mode).inPlaceOf former) := by
  rcases alike with same | ⟨content, mode, _, _, standing, _, file⟩
  · exact ⟨content, mode, same.trans found⟩
  · rcases Object.inPlaceOf_cases former with ⟨object, rfl, stream⟩ | replaced
    · rw [Object.inPlaceOf_of_isStream _ stream] at found
      cases found.symm.trans file
      cases stream
    · exact ⟨content, mode, by rw [standing, replaced]⟩

/-- The first run makes directories, which the second one has found. -/
theorem of_madeDownTo (alike : Alike last ahead behind location)
    (evolves : Evolves (MadeDownTo target) ahead made) : Alike last made behind location := by
  rcases alike with same | ⟨content, mode, old, before, standing, there, file⟩
  · exact .inl same
  refine .inr ⟨content, mode, old, before, standing, ?_, file⟩
  rw [← there]
  refine evolves.get?_eq fun object found ⟨_, isDirectory⟩ => ?_
  -- No directory is made where there is a file.
  have developed := evolves.developed location
  rw [there, found, isDirectory] at developed
  cases developed

/-- Both runs write the same to the same place. -/
theorem of_written {content former : List UInt8} {mode before : Nat} {old : Option Object}
    (alike : Alike last ahead behind location) (named : target ≠ [])
    (evolves : Evolves (WrittenAt target fun _ => True) ahead made)
    (filled : made.get? target = some ((Object.file content mode).inPlaceOf old))
    (found : last.get? target = some ((Object.file former before).inPlaceOf old)) :
    Alike last made (behind.insert target ((Object.file content mode).inPlaceOf old)) location := by
  by_cases same : location = target
  · subst same
    rcases Object.inPlaceOf_cases old with ⟨object, rfl, stream⟩ | replaced
    · rw [Object.inPlaceOf_of_isStream _ stream] at found ⊢
      exact .inl ((get?_insert_self _ _ named).trans found.symm)
    · rw [replaced] at filled found ⊢
      exact .inr ⟨content, mode, former, before, get?_insert_self _ _ named, filled, found⟩
  · have kept : made.get? location = ahead.get? location :=
      evolves.get?_eq fun object _ written => by
        cases written
        exact same rfl
    rw [Alike, get?_insert_of_ne _ _ same, kept]
    exact alike

/-- When the first run has come to its end, both have the same. -/
theorem eq (alike : Alike last last behind location) :
    behind.get? location = last.get? location := by
  rcases alike with same | ⟨_, _, _, _, standing, there, _⟩
  · exact same
  · exact standing.trans there.symm

end Alike

/-- How the state of a second run stands to that of the first one at the same moment. -/
structure Repeats (last : FileSystem) (state state' : State) : Prop where
  known : state'.materialized = state.materialized
  journal : state'.journal = state.journal
  keys_eq : state'.fileSystem.keys = last.keys
  alike : ∀ location, Alike last state.fileSystem state'.fileSystem location

/-- Both runs note the same. -/
theorem Repeats.changed {last : FileSystem} {state state' : State}
    (repeats : Repeats last state state') (change : Journal → Journal) :
    Repeats last { state with journal := change state.journal }
      { state' with journal := change state'.journal } :=
  ⟨repeats.known, congrArg change repeats.journal, repeats.keys_eq, repeats.alike⟩

namespace Pass

variable {task : Task} {before last made fs : FileSystem} {state state' : State}
  {item path source twin : Path} {names : List Name} {name : Name} {here : Location} {left : Nat}
  {content : List UInt8} {object : Object} {options : Options} {policy : Policy}

theorem inMode_eq (real : task.options.dryRun = false) : task.inMode false = task := by
  rw [Task.inMode, ← real]

/-! ### Runs of single steps -/

theorem run_ensureDirectory
    (unknown : (state.materialized.any fun known => decide (known.Same path)) = false)
    (created : state.fileSystem.createDirectories path = (made, .ok ())) :
    EStateM.run (ensureDirectory path) state = .ok true
      { state with fileSystem := made, materialized := state.materialized ++ [path] } := by
  unfold ensureDirectory
  refine run_bind_eq_ok_iff.2 ⟨false, state, by rw [← unknown]; rfl, ?_⟩
  refine run_bind_eq_ok_iff.2 ⟨state.fileSystem, state, rfl, ?_⟩
  rw [created]
  rfl

/-- Writing to a file that exists replaces it, and writing to what keeps nothing leaves it. -/
theorem run_write {former : List UInt8} {mode : Nat} {old : Option Object}
    (wellFormed : state.fileSystem.WellFormed)
    (accepted : checkText (path.join ⟨name⟩) pathLimit = .ok ())
    (leads : Leads state.fileSystem linkLimit path.names (state.fileSystem.origin path) left here)
    (standing : state.fileSystem.get? (name :: here) =
      some ((Object.file former mode).inPlaceOf old))
    (shown : (state.fileSystem.insert (name :: here)
      ((Object.file content (mode ||| ownerWrite)).inPlaceOf old)).stat source = .ok object) :
    EStateM.run (write source (path.join ⟨name⟩) content) state = .ok ()
      { state with
        fileSystem := state.fileSystem.insert (name :: here)
          ((Object.file content (object.mode ||| ownerWrite)).inPlaceOf old) } := by
  have ordinary := wellFormed.isOrdinary standing name List.mem_cons_self
  have enclosed : state.fileSystem.get? here = some .directory := wellFormed.get?_tail standing
  -- Writing to what is there keeps the way to it.
  have replaced : ∀ (content : List UInt8) (mode : Nat),
      Evolves (WrittenAt (name :: here) fun _ => True) state.fileSystem
        (state.fileSystem.insert (name :: here) ((Object.file content mode).inPlaceOf old)) :=
    fun _ _ => .refill wellFormed standing trivial
  have way : ∀ {fs : FileSystem}, Evolves (WrittenAt (name :: here) fun _ => True)
      state.fileSystem fs → Leads fs linkLimit path.names (fs.origin path) left here := by
    intro fs evolves
    rw [evolves.origin_eq]
    exact evolves.leads leads
  have first := replaced former (mode ||| ownerWrite)
  have second := replaced content (mode ||| ownerWrite)
  unfold write
  refine run_bind_eq_ok_iff.2 ⟨(), _, run_change
    (ensureWritable_join ordinary accepted enclosed leads standing), ?_⟩
  refine run_bind_eq_ok_iff.2 ⟨(), _, run_change
    (writeFile_join ordinary accepted (first.directory enclosed) (way first)
      (get?_insert_self _ _ (by simp))), ?_⟩
  refine run_change ?_
  simp only [insert_insert]
  rw [copyMode, shown]
  simp only [bind, Except.bind]
  rw [setMode_join ordinary accepted (second.directory enclosed) (way second)
    (get?_insert_self _ _ (by simp)), insert_insert]

/-! ### Step by step -/

section Steps

variable (grounded : Grounded task before) (real : task.options.dryRun = false)
  (settled : Settled task before last)

include real

/-- A place that was safe in the first run is safe in the second one. -/
theorem checkSafe_again (sound : Sound task before state) (sound' : Sound task before state')
    (beneath : Path.Beneath path task.twin names)
    (enclosed : state.fileSystem.get? (task.place before names.dropLast) = some .directory)
    (enclosed' : state'.fileSystem.get? (task.place before names.dropLast) = some .directory)
    (noLink : ∀ target, state'.fileSystem.get? (task.place before names) ≠ some (.link target))
    (safe : state.fileSystem.checkSafe path task.twin = .ok ()) :
    state'.fileSystem.checkSafe path task.twin = .ok () := by
  obtain ⟨_, _, leads⟩ := sound.root real
  obtain ⟨_, _, leads'⟩ := sound'.root real
  obtain ⟨accepted, _⟩ := (checkSafe_eq_ok_iff sound.wellFormed beneath enclosed leads).1 safe
  refine (checkSafe_eq_ok_iff sound'.wellFormed beneath enclosed' leads').2 ⟨?_, noLink⟩
  -- Both runs see the twin from one working directory.
  have same : state'.fileSystem.absolutize task.twin = state.fileSystem.absolutize task.twin := by
    rw [absolutize, absolutize, sound'.evolves.working, sound.evolves.working]
  rwa [same]

include grounded settled

theorem follows_materialize_again (sound : Sound task before state)
    (sound' : Sound task before state') (repeats : Repeats last state state')
    (visits : task.Visits before names) (beneath : Path.Beneath path task.twin names)
    (enclosed : state.fileSystem.get? (task.place before names.dropLast) = some .directory) :
    Follows (materialize task path) (materialize task path) state state'
      fun _ after _ after' => Repeats last after after' := by
  have there : state'.fileSystem.get? (task.place before names) = some .directory :=
    (repeats.alike _).directory (settled.directories names visits)
  unfold materialize
  apply follows_isMaterialized_bind
  rw [repeats.known]
  split
  next => exact follows_pure repeats
  next unknown =>
    refine follows_requireSafe_bind (fun safe => ?_) fun safe => ?_
    · exact checkSafe_again real sound sound' beneath enclosed
        (directory_place_dropLast sound'.wellFormed there) (by simp [there]) safe
    rw [if_neg (by simp [real])]
    have ensured : Follows (ensureDirectory path) (ensureDirectory path) state state'
        fun isNew after isNew' after' => isNew = true ∧ isNew' = true ∧
          Repeats last after after' := by
      refine follows_of_run (ensureDirectory_meets (by simpa using unknown) trivial) ?_
      rintro _ after ⟨rfl, created, materialized, noted⟩
      obtain ⟨_, _, leads⟩ := sound'.root real
      -- The second run comes to a directory that is there.
      have again : state'.fileSystem.createDirectories path = (state'.fileSystem, .ok ()) :=
        createDirectories_again created
          (leads.beneath sound'.wellFormed beneath there) there
      refine ⟨true, _, run_ensureDirectory (by simpa [repeats.known] using unknown) again, rfl, rfl,
        ?_⟩
      have evolves : Evolves (MadeDownTo (state.fileSystem.prospect path)) state.fileSystem
          (state.fileSystem.createDirectories path).1 :=
        createDirectories_evolves sound.wellFormed (sound.anchored grounded beneath)
      rw [created] at evolves
      exact ⟨by rw [materialized, repeats.known], repeats.journal.trans noted.symm,
        repeats.keys_eq, fun location => (repeats.alike location).of_madeDownTo evolves⟩
    refine ensured.bind ?_
    rintro _ after _ after' ⟨rfl, rfl, repeats⟩
    rw [if_pos rfl]
    apply follows_modify_bind
    exact follows_modify
      ((repeats.changed (·.note .debug _)).changed (·.count .addDirectory))

theorem follows_write_again {file : SourceFile} {text : List Char}
    (undisturbed : Undisturbed before task.source task.twin) (sound : Sound task before state)
    (sound' : Sound task before state') (repeats : Repeats last state state')
    (finishes : Finishes task before file state)
    (read : state.fileSystem.readText (task.path file) = .ok text) :
    Follows
      (write (task.path file) (task.record file).destination
        (Utf8.encode (adapt task.rules (task.record file).stripped text)))
      (write (task.path file) (task.record file).destination
        (Utf8.encode (adapt task.rules (task.record file).stripped text))) state state'
      fun _ after _ after' => Repeats last after after' := by
  obtain ⟨visits, taken, _, safe⟩ := finishes
  obtain ⟨object, standing, noDirectory⟩ :=
    task.exists_standing_of_mem_taken grounded.wellFormed taken
  have entry : before.get? (task.stand before (file.names ++ [file.name])) = some object := by
    rwa [task.stand_append_singleton]
  have inside : Path.Beneath (task.source.extend file.names) task.source file.names :=
    .extend (visits.isPlain grounded.wellFormed)
  have below : Path.Beneath (task.path file) task.source (file.names ++ [file.name]) :=
    task.beneath_of_mem_taken grounded.wellFormed taken
  have beneath : Path.Beneath (task.record file).destination task.twin
      (task.renamed file.names file.name) :=
    Placement.beneath_file grounded.replaced below
  have fills : task.Fills before file.names file.name object
      (Utf8.encode (adapt task.rules (task.record file).stripped text)) := by
    refine .adapted inside fun raw mode regular => ?_
    subst regular
    exact sound.decode?_of_readText grounded inside standing read
  have lands := sound.prospect_eq real beneath safe
  refine follows_of_run ((write_meets sound real entry noDirectory fills beneath lands).and
    write_meets_journal).forget ?_
  rintro _ after ⟨⟨kept, written⟩, journal, materialized⟩
  obtain ⟨moment, model, soundMoment, shown, filled⟩ := written.exists_mode
  -- The second run comes to what is there, which it writes to.
  obtain ⟨former, old, found⟩ := settled.files file visits taken
  obtain ⟨held, mode, there⟩ := (repeats.alike _).file found
  have named : task.goal before file ≠ [] := ne_nil_of_get?_inPlaceOf found
  have goal_eq := task.goal_eq before file
  have enclosed : state'.fileSystem.get? (task.place before file.names) = some .directory := by
    rw [goal_eq] at there
    exact sound'.wellFormed.get?_tail there
  obtain ⟨above, left, destination_eq, way⟩ := sound'.exists_leads_file real below enclosed
  -- The mode is asked for last; the source shows what it showed in the first run at that moment.
  have replaced : Sound task before { state' with
      fileSystem := state'.fileSystem.insert (task.goal before file)
        ((Object.file (Utf8.encode (adapt task.rules (task.record file).stripped text))
          (mode ||| ownerWrite)).inPlaceOf (before.get? (task.goal before file))) } :=
    sound'.fill real entry noDirectory fills (.refill sound'.wellFormed there rfl)
  have same := (replaced.stat_eq grounded undisturbed inside standing).trans
    ((soundMoment.stat_eq grounded undisturbed inside standing).symm.trans shown)
  have accepted : checkText (above.join ⟨Placement.fileName task.options.renamings file.name⟩)
      pathLimit = .ok () := destination_eq ▸ written.accepted
  rw [goal_eq] at there same
  have ran := run_write sound'.wellFormed accepted way there same
  rw [← destination_eq, ← goal_eq] at ran
  refine ⟨(), _, ran, ?_, ?_, ?_, ?_⟩
  · exact repeats.known.trans materialized.symm
  · exact repeats.journal.trans journal.symm
  · rw [← repeats.keys_eq]
    exact keys_insert named (goal_eq ▸ there) _
  · intro location
    exact (repeats.alike location).of_written named kept.evolves filled found

/-- A second run goes along with the first one. -/
theorem lockstep_repeats (undisturbed : Undisturbed before task.source task.twin) :
    Lockstep task false before (Repeats last) where
  grounded := grounded
  grounded' := (inMode_eq real).symm ▸ grounded
  undisturbed := undisturbed
  routine _ repeats := repeats.changed _
  materialize := by
    intro state state' trail path ⟨sound, sound', repeats⟩ visits beneath enclosed
    rw [inMode_eq real] at sound' ⊢
    exact follows_materialize_again grounded real settled sound sound' repeats visits beneath
      (enclosed real)
  safe := by
    intro state state' file ⟨sound, sound', repeats⟩ ⟨visits, taken, enclosed, safe⟩
    rw [inMode_eq real] at sound'
    have beneath : Path.Beneath (task.record file).destination task.twin
        (task.renamed file.names file.name) :=
      Placement.beneath_file grounded.replaced
        (task.beneath_of_mem_taken grounded.wellFormed taken)
    -- Above the file is its directory, which the first run has left there.
    have dropLast_eq : (task.renamed file.names file.name).dropLast = file.names :=
      List.dropLast_concat
    obtain ⟨_, _, found⟩ := settled.files file visits taken
    obtain ⟨_, _, there⟩ := (repeats.alike _).file found
    refine checkSafe_again real sound sound' beneath ?_ ?_ (fun target link => ?_) safe
    · rw [dropLast_eq]
      exact enclosed real
    · rw [dropLast_eq]
      exact (repeats.alike _).directory (settled.directories file.names visits)
    · exact ne_link_of_get?_inPlaceOf there link
  finish := by
    intro state state' file text ⟨sound, sound', repeats⟩ finishes read
    rw [inMode_eq real] at sound' ⊢
    rw [finish_of_real real]
    apply follows_modify_bind
    refine Follows.bind (follows_write_again grounded real settled undisturbed
      (sound.congr rfl rfl) (sound'.congr rfl rfl) (repeats.changed (·.note .info _))
      (finishes.congr rfl) read) ?_
    intro _ after _ after' repeats
    exact follows_modify (repeats.changed (·.count (·.addCopied _)))

end Steps

/-! ### From beginning to end -/

theorem run_prepareRoot (created : fs.createDirectories twin = (made, .ok ())) :
    EStateM.run (prepareRoot twin false) { fileSystem := fs } =
      .ok () { fileSystem := made
               journal := ({} : Journal).count .addDirectory
               materialized := [twin] } := by
  unfold prepareRoot
  rw [if_neg (by decide)]
  refine run_bind_eq_ok_iff.2 ⟨true, _, run_tryCatch_of_ok (run_ensureDirectory rfl created), rfl⟩

/-- The tree that stands is told from the source as the one that was to be made. -/
theorem overlaps_again {permitted : Location → Object → Prop} {home : Location}
    (wellFormed : fs.WellFormed) (evolves : Evolves permitted fs last)
    (anchored : fs.Anchored twin) (created : fs.createDirectories twin = (made, .ok ()))
    (again : last.createDirectories twin = (last, .ok ()))
    (found : fs.canonicalize source = .ok home) (found' : last.canonicalize source = .ok home) :
    last.overlaps source twin = fs.overlaps source twin := by
  have same : (last.normalizeMissing twin).components = (fs.normalizeMissing twin).components := by
    rw [components_normalizeMissing wellFormed anchored (.inr (by rw [created])),
      components_normalizeMissing evolves.wellFormed (anchored.evolve evolves)
        (.inr (by rw [again])),
      evolves.prospect_eq]
  simp only [overlaps, FileSystem.normalize, found, found', Path.startsWith, same]

/-- A run on what a successful one has left passes its checks, and there is no directory left to
make for the root of the twin. -/
theorem run_checkArguments_again {trails : List (List Name)} {report : Report} {start after : State}
    (completed : Completed task before trails report after) (real : task.options.dryRun = false)
    (checked : EStateM.run (checkArguments task.source task.twin) { fileSystem := before } =
      .ok () start)
    (created : before.createDirectories task.twin = (made, .ok ())) :
    EStateM.run (checkArguments task.source task.twin) { fileSystem := after.fileSystem } =
        .ok () { fileSystem := after.fileSystem } ∧
      after.fileSystem.createDirectories task.twin = (after.fileSystem, .ok ()) := by
  have wellFormed := completed.grounded.wellFormed
  have anchored := completed.grounded.anchored
  have evolves := completed.progress.sound.evolves
  obtain ⟨directory, left, leads⟩ := completed.progress.sound.root real
  have again : after.fileSystem.createDirectories task.twin = (after.fileSystem, .ok ()) :=
    createDirectories_again created leads directory
  obtain ⟨_, isDirectory, apart, noLink⟩ := run_checkArguments_eq_ok_iff.1 checked
  obtain ⟨accepted, spare, there, way, standing⟩ := isDirectory_iff.1 isDirectory
  -- The way to the source was there before the first run, which has kept it.
  have onward : Leads after.fileSystem linkLimit task.source.names
      (after.fileSystem.origin task.source) spare there := by
    rw [evolves.origin_eq]
    exact evolves.leads way
  have found : after.fileSystem.canonicalize task.source = .ok (task.home before) :=
    evolves.canonicalize completed.found
  refine ⟨run_checkArguments_eq_ok_iff.2 ⟨rfl, ?_, ?_, fun target => ?_⟩, again⟩
  · exact isDirectory_iff.2 ⟨accepted, spare, there, onward, evolves.directory standing⟩
  · rw [← apart]
    exact overlaps_again wellFormed evolves anchored created again completed.found found
  · exact lstat_ne_link_of_createDirectories wellFormed anchored created evolves leads directory
      noLink target

end Pass

/-- A second run may start its walk on what the first one has left. -/
theorem Completed.sound_again {task : Task} {before : FileSystem} {trails : List (List Name)}
    {report : Report} {after : State} (completed : Completed task before trails report after)
    (real : task.options.dryRun = false) (journal : Journal) :
    Sound task before
      { fileSystem := after.fileSystem, journal, materialized := [task.twin] } where
  evolves := completed.progress.sound.evolves
  rehearsed dry := by
    rw [real] at dry
    cases dry
  root := completed.progress.sound.root
  known _ path member names beneath := by
    obtain rfl := List.mem_singleton.1 member
    rw [← (Path.Beneath.refl _).unique beneath]
    exact (completed.progress.sound.root real).1

/-- A run on what a successful real run has left has the same outcome: the same report and log, and
the same file system. -/
theorem rerun_reproduces {fs : FileSystem} {source twin : Path} {options : Options}
    {policy : Policy} {report : Report} (wellFormed : fs.WellFormed)
    (descends : .parent ∉ twin.components) (replaced : PlainRenamings options.renamings)
    (undisturbed : Undisturbed fs source twin) (real : options.dryRun = false)
    (succeeded : (deriveWith fs source twin options policy).result = .ok report) :
    deriveWith (deriveWith fs source twin options policy).fileSystem source twin options policy =
      deriveWith fs source twin options policy := by
  obtain ⟨task, trails, last, prepared, _, left_eq, completed⟩ :=
    exists_completed wellFormed descends replaced undisturbed succeeded
  obtain ⟨after, ended⟩ := exists_run_of_deriveWith succeeded
  have outcome := deriveWith_of_run ended
  obtain ⟨rfl, other, start, ready, stages⟩ := Pass.run_eq_ok_iff.1 ended
  obtain rfl : task = other := Except.ok.inj (prepared.symm.trans stages.prepared)
  obtain ⟨rfl, rfl, rfl, rfl, _⟩ := Pass.eq_of_prepare prepared
  obtain ⟨rfl, _⟩ := Pass.run_checkArguments_eq_ok_iff.1 stages.checked
  have last_eq : last.fileSystem = after.fileSystem := by rw [← left_eq, outcome]
  obtain ⟨created, known, noted⟩ := Pass.prepareRoot_meets_journal.of_run (real ▸ stages.rooted)
  obtain ⟨checked, again⟩ := Pass.run_checkArguments_again completed real stages.checked created
  have sound := sound_of_prepared completed.grounded (Pass.prepareRoot_meets.of_run stages.rooted)
  have sound' := completed.sound_again real (({} : Journal).count .addDirectory)
  -- Both runs have accounted for the root already when they begin to walk.
  have begins : Pass.Follows
      (Pass.materialize task (Placement.directory task.source task.twin (task.source.extend [])))
      (Pass.materialize task (Placement.directory task.source task.twin (task.source.extend [])))
      ready { fileSystem := last.fileSystem, journal := ({} : Journal).count .addDirectory,
              materialized := [task.twin] }
      fun _ after _ after' => Repeats last.fileSystem after after' := by
    have root_eq : Placement.directory task.source task.twin (task.source.extend []) = task.twin :=
      Placement.directory_self ..
    rw [root_eq]
    intro _ _ skipped
    cases (Pass.run_materialize_of_known ⟨_, by simp [known], rfl⟩).symm.trans skipped
    exact ⟨(), _, Pass.run_materialize_of_known ⟨_, List.mem_cons_self, rfl⟩, known.symm,
      noted.symm, rfl,
      fun _ => .inl rfl⟩
  have visits : task.Visits fs [] := ⟨completed.grounded.source, by simp⟩
  have lockstep := Pass.lockstep_repeats completed.grounded real (completed.settled real)
    undisturbed
  rw [← Pass.inMode_eq real] at sound'
  obtain ⟨_, after', walked, ⟨ahead, behind, repeats⟩, _⟩ := Pass.follows_walk lockstep visits sound
    sound' ((Pass.inMode_eq real).symm ▸ begins) () after stages.walked
  have agree : Agree after'.fileSystem after.fileSystem := fun location =>
    (last_eq ▸ repeats.alike location).eq
  have same : after'.fileSystem = after.fileSystem :=
    eq_of_agree ahead.wellFormed behind.wellFormed (last_eq ▸ repeats.keys_eq)
      (behind.evolves.working.trans ahead.evolves.working.symm) agree
  have stages' : Pass.Stages last.fileSystem task.source task.twin task.options task.policy task
      { fileSystem := last.fileSystem }
      { fileSystem := last.fileSystem, journal := ({} : Journal).count .addDirectory,
        materialized := [task.twin] } after' :=
    { checked := checked
      prepared := prepared
      rooted := real ▸ Pass.run_prepareRoot again
      walked := Pass.inMode_eq real ▸ walked }
  rw [left_eq, outcome, deriveWith_of_run (Pass.run_eq_ok_iff.2 ⟨rfl, _, _, _, stages'⟩), same,
    repeats.journal]

theorem rerun_reproduces_smallTree : ∃ report,
    (deriveWith smallTree (.ofString "s") (.ofString "d") {} fun _ => true).result = .ok report ∧
    deriveWith (deriveWith smallTree (.ofString "s") (.ofString "d") {} fun _ => true).fileSystem
        (.ofString "s") (.ofString "d") {} (fun _ => true) =
      deriveWith smallTree (.ofString "s") (.ofString "d") {} fun _ => true := by
  obtain ⟨report, succeeded⟩ := smallTree_succeeds
  exact ⟨report, succeeded, rerun_reproduces (by decide) (by decide) (by decide)
    undisturbed_smallTree rfl succeeded⟩

end TwinTree
