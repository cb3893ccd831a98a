import TwinTree.Proofs.Pass.Completion
import TwinTree.Proofs.Pass.Following

/-!
# Two walks in lockstep

Two walks over one source read the same and so come to the same files and directories in the same
order. `Lockstep` says what has to be known of the places where they may differ: how a directory of
the twin is accounted for, whether a place is safe, and how a file is finished. From that, one whole
walk follows the other (`follows_walk`).
-/
namespace TwinTree

open FileSystem

/-- The same task, with another choice of whether to write. -/
def Task.inMode (task : Task) (dryRun : Bool) : Task :=
  { task with options := { task.options with dryRun := dryRun } }

@[simp]
theorem Task.dryRun_inMode (task : Task) (dryRun : Bool) :
    (task.inMode dryRun).options.dryRun = dryRun := rfl

/-- Names lead to a directory of the source that a walk visits. -/
def Task.Visits (task : Task) (before : FileSystem) (trail : List Name) : Prop :=
  before.get? (task.stand before trail) = some .directory ∧
    ∀ name ∈ trail, task.Enters (Utf8.lossy name)

theorem Task.Visits.isPlain {task : Task} {before : FileSystem} {trail : List Name}
    (visits : task.Visits before trail) (wellFormed : before.WellFormed) :
    ∀ name ∈ trail, IsPlain name := fun name member =>
  wellFormed.isPlain visits.1 name (by simp [Task.stand, member])

theorem Task.mem_taken_of_takes {task : Task} {before : FileSystem} {names : List Name}
    {found : Name × Object} (listed : found ∈ task.listed before names .file)
    (takes : task.Takes before (.ofEntry (task.source.extend names) found)) :
    ⟨names, found.1⟩ ∈ task.taken before names :=
  List.mem_map.2 ⟨found, List.mem_filter.2 ⟨listed, decide_eq_true takes⟩, rfl⟩

/-- A directory is in the list of those known, in whatever spelling. -/
def State.Knows (state : State) (path : Path) : Prop :=
  ∃ known ∈ state.materialized, known.Same path

/-- The changes of a journal that do not depend on what is written. -/
inductive Journal.Routine : (Journal → Journal) → Prop where
  | scanned : Routine (·.count .addScanned)
  | matched : Routine (·.count .addMatched)
  | skipped : Routine (·.count .addSkipped)
  | note (level : Log.Level) (message : String) : Routine (·.note level message)
  | warn (warning : String) : Routine (·.warn warning)

namespace Pass

variable {task : Task} {state : State} {path source twin : Path} {content : List UInt8}
  {failed : State → Prop} {fs : FileSystem}

/-! ### What the steps of a real pass note -/

/-- A directory that is made is new to the pass. -/
theorem ensureDirectory_meets
    (unknown : (state.materialized.any fun known => decide (known.Same path)) = false)
    (refused : failed { state with fileSystem := (state.fileSystem.createDirectories path).1 }) :
    Meets (ensureDirectory path) state
      (fun isNew after => isNew = true ∧
        state.fileSystem.createDirectories path = (after.fileSystem, .ok ()) ∧
        after.materialized = state.materialized ++ [path] ∧ after.journal = state.journal) failed :=
  meets_ensureDirectory unknown (fun succeeded => ⟨rfl, Prod.ext rfl succeeded, rfl, rfl⟩) refused

theorem createDirectories_of_run {isNew : Bool} {after : State}
    (ensured : EStateM.run (ensureDirectory path) { fileSystem := fs } = .ok isNew after) :
    fs.createDirectories path = (after.fileSystem, .ok ()) := by
  have made : Meets (ensureDirectory path) { fileSystem := fs }
      (fun _ after => fs.createDirectories path = (after.fileSystem, .ok ())) fun _ => True :=
    (ensureDirectory_meets rfl trivial).mono (fun _ _ ends => ends.2.1) fun _ => id
  exact made.of_run ensured

theorem isMaterialized_iff :
    (state.materialized.any fun known => decide (known.Same path)) = true ↔ state.Knows path := by
  simp [State.Knows, List.any_eq_true]

/-- A directory that is known is not accounted for again. -/
theorem run_materialize_of_known (knows : state.Knows path) :
    EStateM.run (materialize task path) state = .ok () state := by
  unfold materialize
  refine run_bind_eq_ok_iff.2 ⟨true, state, ?_, rfl⟩
  rw [← isMaterialized_iff.2 knows]
  rfl

/-- Writing a file notes nothing. -/
theorem write_meets_journal :
    Meets (write source path content) state
      (fun _ after => after.journal = state.journal ∧ after.materialized = state.materialized)
      (fun _ => True) := by
  unfold write
  refine meets_change_bind (fun _ _ => ?_) trivial
  refine meets_change_bind (fun _ _ => ?_) trivial
  exact meets_change (fun _ _ => ⟨rfl, rfl⟩) trivial

/-- A real pass has accounted for the root of the twin when it begins to walk. -/
theorem prepareRoot_meets_journal :
    Meets (prepareRoot twin false) { fileSystem := fs }
      (fun _ after => fs.createDirectories twin = (after.fileSystem, .ok ()) ∧
        after.materialized = [twin] ∧ after.journal = ({} : Journal).count .addDirectory)
      fun _ => True := by
  unfold prepareRoot
  rw [if_neg (by decide)]
  have ensured : Meets (ensureDirectory twin) { fileSystem := fs }
      (fun isNew after => isNew = true ∧ fs.createDirectories twin = (after.fileSystem, .ok ()) ∧
        after.materialized = [twin] ∧ after.journal = {}) fun _ => True :=
    ensureDirectory_meets rfl trivial
  refine Meets.bind (ensured.tryCatch fun error _ _ => ?_) ?_
  · split <;> exact meets_throw trivial
  · rintro _ after ⟨rfl, created, materialized, journal⟩
    exact meets_modify ⟨created, materialized, by rw [journal]⟩

end Pass

/-- The states of two walks in lockstep. -/
structure InStep (task : Task) (dryRun : Bool) (before : FileSystem)
    (Related : State → State → Prop) (state state' : State) : Prop where
  ahead : Sound task before state
  behind : Sound (task.inMode dryRun) before state'
  related : Related state state'

/-- A file that a walk has come to finish. -/
structure Finishes (task : Task) (before : FileSystem) (file : SourceFile) (state : State) :
    Prop where
  visits : task.Visits before file.names
  taken : file ∈ task.taken before file.names
  enclosed : task.options.dryRun = false →
    state.fileSystem.get? (task.place before file.names) = some .directory
  safe : state.fileSystem.checkSafe (task.record file).destination task.twin = .ok ()

theorem Finishes.congr {task : Task} {before : FileSystem} {file : SourceFile} {state after : State}
    (finishes : Finishes task before file state)
    (same : after.fileSystem = state.fileSystem) : Finishes task before file after where
  visits := finishes.visits
  taken := finishes.taken
  enclosed := same ▸ finishes.enclosed
  safe := same ▸ finishes.safe

/-- What a relation between the states of two walks has to satisfy for one walk to follow the
other, which differs from it at most in whether it writes, as far as they read and take notes. -/
structure Tandem (task : Task) (dryRun : Bool) (before : FileSystem)
    (Related : State → State → Prop) : Prop where
  grounded : Grounded task before
  grounded' : Grounded (task.inMode dryRun) before
  undisturbed : Undisturbed before task.source task.twin
  routine : ∀ {state state' change}, Journal.Routine change → Related state state' →
    Related { state with journal := change state.journal }
      { state' with journal := change state'.journal }

/-- What it has to satisfy also where the walks change the twin. -/
structure Lockstep (task : Task) (dryRun : Bool) (before : FileSystem)
    (Related : State → State → Prop) : Prop extends Tandem task dryRun before Related where
  materialize : ∀ {state state' trail path}, InStep task dryRun before Related state state' →
    task.Visits before trail → Path.Beneath path task.twin trail →
    (task.options.dryRun = false →
      state.fileSystem.get? (task.place before trail.dropLast) = some .directory) →
    Pass.Follows (Pass.materialize task path) (Pass.materialize (task.inMode dryRun) path) state
      state' fun _ after _ after' => Related after after'
  safe : ∀ {state state' file}, InStep task dryRun before Related state state' →
    Finishes task before file state →
    state'.fileSystem.checkSafe (task.record file).destination task.twin = .ok ()
  finish : ∀ {state state' file text}, InStep task dryRun before Related state state' →
    Finishes task before file state → state.fileSystem.readText (task.path file) = .ok text →
    Pass.Follows
      (Pass.finish task (task.path file) (task.record file).destination
        (Utf8.encode (adapt task.rules (task.record file).stripped text))
        (task.record file).stripped)
      (Pass.finish (task.inMode dryRun) (task.path file) (task.record file).destination
        (Utf8.encode (adapt task.rules (task.record file).stripped text))
        (task.record file).stripped)
      state state' fun _ after _ after' => Related after after'

theorem InStep.routine {task : Task} {dryRun : Bool} {before : FileSystem}
    {Related : State → State → Prop} {state state' : State} {change : Journal → Journal}
    (inStep : InStep task dryRun before Related state state')
    (tandem : Tandem task dryRun before Related) (routine : Journal.Routine change) :
    InStep task dryRun before Related { state with journal := change state.journal }
      { state' with journal := change state'.journal } :=
  ⟨inStep.ahead.congr rfl rfl, inStep.behind.congr rfl rfl, tandem.routine routine inStep.related⟩

namespace Pass

variable {task : Task} {dryRun : Bool} {before : FileSystem} {Related : State → State → Prop}
  {state state' after : State} {directory : Path} {names : List Name} {name : Name}
  {object : Object} {entry : SourceEntry}

theorem directory_place_dropLast {fs : FileSystem} (wellFormed : fs.WellFormed)
    (there : fs.get? (task.place before names) = some .directory) :
    fs.get? (task.place before names.dropLast) = some .directory := by
  obtain ⟨last, split⟩ := List.dropLast_prefix names
  have place_eq : task.place before names = last.reverse ++ task.place before names.dropLast := by
    conv_lhs => rw [← split]
    simp [Task.place]
  rw [place_eq] at there
  exact wellFormed.directory_of_append there

theorem Handled.evolves (handled : Handled task before directory names name entry state after)
    (sound : Sound task before state) :
    Evolves (fun _ _ => True) state.fileSystem after.fileSystem := by
  cases handled with
  | passed _ quiet =>
    rw [quiet.files]
    exact .refl sound.wellFormed
  | copied _ copied => exact copied.evolves.mono fun _ _ _ => trivial

/-! ### Reading the source -/

/-- What a walk reads from a directory of the source, any other one reads too. -/
theorem readDirectory_eq_ok {other : Task} {entries : List (Name × Object)}
    (grounded : Grounded task before) (grounded' : Grounded other before)
    (same : other.source = task.source) (sound : Sound task before state)
    (sound' : Sound other before state') (beneath : Path.Beneath directory task.source names)
    (standing : before.get? (task.stand before names) = some .directory)
    (read : state.fileSystem.readDirectory directory = .ok entries) :
    state'.fileSystem.readDirectory directory = .ok entries := by
  obtain rfl := readDirectory_eq_children grounded sound beneath standing read
  obtain ⟨_, located, _, _⟩ := exists_of_readDirectory read
  have stand_eq : other.stand before names = task.stand before names := by
    rw [Task.stand, Task.stand, Task.home, Task.home, same]
  have inside : other.home before <:+ task.stand before names := by
    rw [← stand_eq]
    exact List.suffix_append ..
  have standing' : before.get? (other.stand before names) = some .directory := stand_eq ▸ standing
  obtain ⟨left, _, leads⟩ := sound'.leads_stand grounded' (same ▸ beneath) standing'
  rw [stand_eq] at leads
  -- Neither walk has changed the source, so the directory is there for both, by the same way.
  have there : state'.fileSystem.get? (task.stand before names) = some .directory := by
    rw [sound'.get?_eq grounded' inside, standing]
  have found : state'.fileSystem.locate directory true = .ok (task.stand before names) :=
    locate_eq_ok_iff.2
      ⟨(locate_eq_ok_iff.1 located).1, left, (leads_steps_iff there).2 leads⟩
  rw [readDirectory, found, ← sound'.children_eq grounded' inside]
  change state'.fileSystem.require (task.stand before names) >>= _ = _
  rw [require_eq_ok_iff.2 there]
  rfl

section Reading

variable (tandem : Tandem task dryRun before Related)

include tandem

/-- Both walks find the same entries of each kind. -/
theorem follows_classify {entries : List (Name × Object)}
    (alike : ∀ found ∈ entries,
      SourceEntry.kind state'.fileSystem (directory.join ⟨found.1⟩) found.2 =
        SourceEntry.kind state.fileSystem (directory.join ⟨found.1⟩) found.2)
    (inStep : InStep task dryRun before Related state state') :
    Follows (classify directory entries) (classify directory entries) state state'
      fun listing after listing' after' => listing' = listing ∧
        InStep task dryRun before Related after after' := by
  induction entries generalizing state state' with
  | nil => exact follows_pure ⟨rfl, inStep⟩
  | cons found rest ih =>
    rw [List.forall_mem_cons] at alike
    obtain ⟨first, later⟩ := alike
    unfold classify
    apply follows_fileSystem_bind
    -- The kind of an entry is all that the file system is asked for here.
    rw [first]
    split
    next =>
      refine (ih later inStep).bind ?_
      rintro listing _ _ _ ⟨rfl, inStep⟩
      exact follows_pure ⟨rfl, inStep⟩
    next =>
      refine (ih later inStep).bind ?_
      rintro listing _ _ _ ⟨rfl, inStep⟩
      exact follows_pure ⟨rfl, inStep⟩
    next =>
      apply follows_modify_bind
      exact ih later (inStep.routine tandem (.warn _))

theorem follows_list (beneath : Path.Beneath directory task.source names)
    (standing : before.get? (task.stand before names) = some .directory)
    (inStep : InStep task dryRun before Related state state') :
    Follows (list directory) (list directory) state state'
      fun listing after listing' after' => listing' = listing ∧
        InStep task dryRun before Related after after' := by
  obtain ⟨sound, sound', _⟩ := id inStep
  obtain ⟨grounded, grounded', undisturbed, _⟩ := id tandem
  unfold list
  refine follows_ask_bind (fun entries read => ?_) fun entries read => ?_
  · exact readDirectory_eq_ok grounded grounded' rfl sound sound' beneath standing read
  · have children := readDirectory_eq_children grounded sound beneath standing read
    refine (follows_classify tandem (fun found member => ?_) inStep).bind ?_
    · obtain ⟨name, object⟩ := found
      rw [children] at member
      have standing : before.get? (name :: task.stand before names) = some object :=
        find?_of_mem grounded.wellFormed.nodup (mem_children.1 member)
      -- Only of a link does the kind depend on where it leads.
      cases object with
      | link target =>
        simp only [SourceEntry.kind]
        rw [sound.isDirectory_eq grounded undisturbed beneath standing]
        rw [sound'.isDirectory_eq grounded' undisturbed beneath standing]
      | _ => rfl
    · rintro listing _ _ _ ⟨rfl, inStep⟩
      exact follows_pure ⟨rfl, inStep⟩

/-- Both walks see the same behind a link. -/
theorem follows_hasContent (beneath : Path.Beneath directory task.source names)
    (standing : before.get? (name :: task.stand before names) = some object)
    (inStep : InStep task dryRun before Related state state') :
    Follows (hasContent (.ofEntry directory (name, object)))
      (hasContent (.ofEntry directory (name, object))) state state'
      fun has after has' after' => has' = has ∧ InStep task dryRun before Related after after' := by
  -- Both file systems show behind the entry what the one at the start did.
  have shown := inStep.ahead.stat_eq tandem.grounded tandem.undisturbed beneath standing
  have shown' := inStep.behind.stat_eq tandem.grounded' tandem.undisturbed beneath standing
  unfold hasContent
  split
  next => exact follows_pure ⟨rfl, inStep⟩
  next =>
    refine follows_ask_bind (fun target found => ?_) fun target found => ?_
    · exact shown'.trans (shown.symm.trans found)
    split
    next => exact follows_pure ⟨rfl, inStep⟩
    next =>
      apply follows_modify_bind
      apply follows_modify_bind
      exact follows_pure ⟨rfl, (inStep.routine tandem (.warn _)).routine tandem .skipped⟩

theorem follows_admits (inStep : InStep task dryRun before Related state state') :
    Follows (admits task entry) (admits (task.inMode dryRun) entry) state state'
      fun admitted after admitted' after' => admitted' = admitted ∧
        InStep task dryRun before Related after after' := by
  unfold admits
  split
  next =>
    apply follows_modify_bind
    exact follows_pure ⟨rfl, inStep.routine tandem (.note _ _)⟩
  change Follows _ (if task.excludedDirectories.excludes entry.name = true then _ else _) _ _ _
  split
  next =>
    apply follows_modify_bind
    exact follows_pure ⟨rfl, inStep.routine tandem (.note _ _)⟩
  split
  next =>
    apply follows_modify_bind
    exact follows_pure ⟨rfl, inStep.routine tandem (.warn _)⟩
  next => exact follows_pure ⟨rfl, inStep⟩

/-- Both walks come to the same file, and pass it over or copy it. -/
theorem follows_handleFile (visits : task.Visits before names)
    (listed : (name, object) ∈ task.listed before names .file)
    (inStep : InStep task dryRun before Related state state')
    (copies : ∀ {asked asked'}, Quiet state asked → Quiet state' asked' →
      InStep task dryRun before Related asked asked' → ⟨names, name⟩ ∈ task.taken before names →
      Follows (copy task (task.source.extend names) (task.path ⟨names, name⟩))
        (copy (task.inMode dryRun) (task.source.extend names) (task.path ⟨names, name⟩)) asked
        asked' fun _ after _ after' => InStep task dryRun before Related after after') :
    Follows
      (handleFile task (task.source.extend names)
        (.ofEntry (task.source.extend names) (name, object)))
      (handleFile (task.inMode dryRun) (task.source.extend names)
        (.ofEntry (task.source.extend names) (name, object))) state state'
      fun _ after _ after' => InStep task dryRun before Related after after' := by
  obtain ⟨grounded, grounded', undisturbed, _⟩ := id tandem
  obtain ⟨standing, same⟩ := (task.mem_listed_iff grounded.wellFormed).1 listed
  have entry : before.get? (name :: task.stand before names) = some object := by
    rwa [← task.stand_append_singleton]
  have inside : Path.Beneath (task.source.extend names) task.source names :=
    .extend (visits.isPlain grounded.wellFormed)
  have sound := inStep.ahead
  have inStep := inStep.routine tandem .scanned
  unfold handleFile
  apply follows_modify_bind
  -- Both walks select by the same options.
  have alike : Selection.ofName (task.inMode dryRun).options (task.inMode dryRun).excludedFiles
        (SourceEntry.ofEntry (task.source.extend names) (name, object)).name =
      Selection.ofName task.options task.excludedFiles
        (SourceEntry.ofEntry (task.source.extend names) (name, object)).name := rfl
  rw [alike]
  cases selection : Selection.ofName task.options task.excludedFiles
      (SourceEntry.ofEntry (task.source.extend names) (name, object)).name with
  | unrecognized => exact follows_pure inStep
  | skipped =>
    apply follows_modify_bind
    exact follows_modify ((inStep.routine tandem (.note _ _)).routine tandem .skipped)
  | selected =>
    apply follows_modify_bind
    have inStep := inStep.routine tandem .matched
    refine Follows.bind (.of_leader (hasContent_meets trivial)
      (.of_follower (hasContent_meets trivial)
        (follows_hasContent tandem inside entry inStep))) ?_
    rintro has asked _ asked' ⟨⟨quiet, content⟩, ⟨quiet', _⟩, rfl, inStep⟩
    split
    next holds =>
      have takes : task.Takes state.fileSystem
          (.ofEntry (task.source.extend names) (name, object)) := ⟨selection, content.1 holds⟩
      have taken : (⟨names, name⟩ : SourceFile) ∈ task.taken before names :=
        task.mem_taken_of_takes listed
          ((sound.takes_iff grounded undisturbed inside entry).1 takes)
      exact copies ⟨quiet.files, quiet.known, quiet.records⟩
        ⟨quiet'.files, quiet'.known, quiet'.records⟩ inStep taken
    next => exact follows_pure inStep

end Reading

/-! ### One file -/

/-- Accounting for a directory keeps the invariants of both walks. -/
theorem follows_materialize {path : Path} (grounded : Grounded task before)
    (grounded' : Grounded (task.inMode dryRun) before) (visits : task.Visits before names)
    (beneath : Path.Beneath path task.twin names) (sound : Sound task before state)
    (sound' : Sound (task.inMode dryRun) before state')
    (begins : Follows (materialize task path) (materialize (task.inMode dryRun) path) state state'
      fun _ after _ after' => Related after after') :
    Follows (materialize task path) (materialize (task.inMode dryRun) path) state state'
      fun _ after _ after' => Kept task before (MadeDownTo (task.place before names)) state after ∧
        (task.options.dryRun = false →
          after.fileSystem.get? (task.place before names) = some .directory) ∧
        InStep task dryRun before Related after after' := by
  have made := materialize_meets grounded sound visits.1 beneath
  have made' := materialize_meets grounded' sound' visits.1 beneath
  refine (Follows.of_leader made.forget (Follows.of_follower made'.forget begins)).mono ?_
  rintro _ after _ after' ⟨⟨kept, there⟩, ⟨kept', _⟩, related⟩
  exact ⟨kept, there, kept.sound, kept'.sound, related⟩

variable (lockstep : Lockstep task dryRun before Related)

include lockstep

theorem follows_copy (file : SourceFile) (visits : task.Visits before file.names)
    (taken : file ∈ task.taken before file.names)
    (enclosed : task.options.dryRun = false →
      state.fileSystem.get? (task.place before file.names) = some .directory)
    (standing : before.get? (file.name :: task.stand before file.names) = some object)
    (noDirectory : object.isDirectory = false)
    (inStep : InStep task dryRun before Related state state') :
    Follows (copy task (task.source.extend file.names) (task.path file))
      (copy (task.inMode dryRun) (task.source.extend file.names) (task.path file)) state state'
      fun _ after _ after' => InStep task dryRun before Related after after' := by
  obtain ⟨⟨grounded, grounded', undisturbed, _⟩, _⟩ := id lockstep
  have plain : ∀ name ∈ file.name :: task.stand before file.names, IsPlain name :=
    grounded.wellFormed.isPlain standing
  rw [List.forall_mem_cons] at plain
  have inside : Path.Beneath (task.source.extend file.names) task.source file.names :=
    .extend fun name member => plain.2 name (by simp [Task.stand, member])
  obtain ⟨parent, found, above⟩ : ∃ parent, (Placement.file task.source task.twin
      task.options.renamings (task.path file)).parent? = some parent ∧
      Path.Beneath parent task.twin file.names :=
    Placement.exists_parent?_file grounded.replaced (inside.join plain.1)
  have higher : task.options.dryRun = false → state.fileSystem.get?
      (task.place before file.names.dropLast) = some .directory := fun real =>
    directory_place_dropLast inStep.ahead.wellFormed (enclosed real)
  -- Each walk keeps its own invariant; what relates them is followed step by step.
  have copies : Follows (copy task (task.source.extend file.names) (task.path file))
      (copy (task.inMode dryRun) (task.source.extend file.names) (task.path file)) state state'
      fun _ after _ after' => Related after after' := by
    rw [copy_eq task _ _ parent found, copy_eq (task.inMode dryRun) _ _ parent found]
    refine Follows.bind (follows_materialize grounded grounded' visits above inStep.ahead
      inStep.behind (lockstep.materialize inStep visits above higher)) ?_
    rintro _ ready _ ready' ⟨kept, there, inStep⟩
    have finishes : ready.fileSystem.checkSafe (task.record file).destination task.twin = .ok () →
        Finishes task before file ready := fun safe => ⟨visits, taken, there, safe⟩
    refine follows_requireSafe_bind (fun safe => lockstep.safe inStep (finishes safe))
      fun safe => ?_
    -- Reading a file asks for nothing but what its path shows.
    have reading : ∀ moment : State,
        moment.fileSystem.stat (task.path file) = before.stat (task.path file) →
        moment.fileSystem.readText (task.path file) = before.readText (task.path file) := by
      intro moment same
      rw [readText, readText, same]
    have read := reading _ (inStep.ahead.stat_eq grounded undisturbed inside standing)
    have read' := reading _ (inStep.behind.stat_eq grounded' undisturbed inside standing)
    refine follows_ask_bind (fun text found => ?_) fun text found => ?_
    · exact read'.trans (read.symm.trans found)
    · exact lockstep.finish inStep (finishes safe) found
  have entry : before.get? (task.stand before (file.names ++ [file.name])) = some object := by
    rwa [task.stand_append_singleton]
  have copied := copy_meets grounded inStep.ahead entry noDirectory inside
  have copied' := copy_meets grounded' inStep.behind entry noDirectory inside
  refine (Follows.of_leader copied.forget (Follows.of_follower copied'.forget copies)).mono ?_
  rintro _ after _ after' ⟨copied, copied', related⟩
  exact ⟨copied.sound, copied'.sound, related⟩

/-! ### A whole walk -/

/-- Two walks in lockstep in a directory that has its counterpart in a real twin. -/
structure Underway (task : Task) (dryRun : Bool) (before : FileSystem)
    (Related : State → State → Prop) (names : List Name) (start : FileSystem)
    (state state' : State) : Prop where
  inStep : InStep task dryRun before Related state state'
  enclosed : task.options.dryRun = false →
    state.fileSystem.get? (task.place before names) = some .directory
  evolves : Evolves (fun _ _ => True) start state.fileSystem

omit lockstep in
/-- What has come to be in the twin stays, so a directory there is there in every round. -/
theorem Underway.next {start : FileSystem} {later : State}
    (underway : Underway task dryRun before Related names start state state')
    (inStep : InStep task dryRun before Related after later)
    (evolves : Evolves (fun _ _ => True) state.fileSystem after.fileSystem) :
    Underway task dryRun before Related names start after later where
  inStep := inStep
  enclosed real := evolves.directory (underway.enclosed real)
  evolves := underway.evolves.trans evolves

/-- Both walks go through the same files. -/
theorem follows_files {start : FileSystem} {files : List SourceEntry}
    (visits : task.Visits before names)
    (listed : files =
      (task.listed before names .file).map (.ofEntry (task.source.extend names)))
    (underway : Underway task dryRun before Related names start state state') :
    Follows (files.forM (handleFile task (task.source.extend names)))
      (files.forM (handleFile (task.inMode dryRun) (task.source.extend names))) state state'
      fun _ after _ after' => Underway task dryRun before Related names start after after' := by
  have grounded := lockstep.grounded
  have inside : Path.Beneath (task.source.extend names) task.source names :=
    .extend (visits.isPlain grounded.wellFormed)
  refine follows_forM underway fun entry member state state' underway => ?_
  rw [listed] at member
  obtain ⟨⟨name, object⟩, within, rfl⟩ := List.mem_map.1 member
  obtain ⟨standing, same⟩ := (task.mem_listed_iff grounded.wellFormed).1 within
  refine Follows.mono (.of_leader (handleFile_meets grounded underway.inStep.ahead standing
    (isDirectory_eq_false_of_kind same) inside rfl).forget
    (follows_handleFile lockstep.toTandem visits within underway.inStep ?_)) ?_
  · intro asked asked' quiet _ inStep taken
    rw [task.stand_append_singleton] at standing
    exact follows_copy lockstep ⟨names, name⟩ visits taken (quiet.files ▸ underway.enclosed)
      standing (isDirectory_eq_false_of_kind same) inStep
  rintro _ after _ after' ⟨handled, inStep⟩
  exact underway.next inStep (handled.evolves underway.inStep.ahead)

/-- How walks of a depth follow each other, whichever directory they start from. -/
def WalksFollow (task : Task) (dryRun : Bool) (before : FileSystem)
    (Related : State → State → Prop) (depth : Nat) : Prop :=
  ∀ ⦃names state state'⦄, task.Visits before names → Sound task before state →
    Sound (task.inMode dryRun) before state' →
    Follows
      (materialize task (Placement.directory task.source task.twin (task.source.extend names)))
      (materialize (task.inMode dryRun)
        (Placement.directory task.source task.twin (task.source.extend names))) state state'
      (fun _ after _ after' => Related after after') →
    Follows (walk task depth (task.source.extend names))
      (walk (task.inMode dryRun) depth (task.source.extend names)) state state'
      fun _ after _ after' => InStep task dryRun before Related after after' ∧
        Evolves (fun _ _ => True) state.fileSystem after.fileSystem

/-- Both walks enter the same subdirectory, or pass it over. -/
theorem follows_subdirectory {start : FileSystem} {depth : Nat}
    (deeper : WalksFollow task dryRun before Related depth) (visits : task.Visits before names)
    (listed : (name, object) ∈ task.listed before names .directory)
    (underway : Underway task dryRun before Related names start state state') :
    Follows
      (do
        if ← admits task (.ofEntry (task.source.extend names) (name, object)) then
          walk task depth (SourceEntry.ofEntry (task.source.extend names) (name, object)).path)
      (do
        if ← admits (task.inMode dryRun)
            (.ofEntry (task.source.extend names) (name, object)) then
          walk (task.inMode dryRun) depth
            (SourceEntry.ofEntry (task.source.extend names) (name, object)).path) state state'
      fun _ after _ after' => Underway task dryRun before Related names start after after' := by
  have wellFormed := lockstep.grounded.wellFormed
  obtain ⟨standing, same⟩ := (task.mem_listed_iff wellFormed).1 listed
  refine Follows.bind
    (.of_leader admits_meets (follows_admits lockstep.toTandem underway.inStep)) ?_
  rintro admitted asked _ asked' ⟨⟨quiet, enters⟩, rfl, inStep⟩
  have still : Evolves (fun _ _ => True) state.fileSystem asked.fileSystem := by
    rw [quiet.files]
    exact .refl underway.inStep.ahead.wellFormed
  split
  next entered =>
    obtain ⟨entered, noLink⟩ := enters.1 entered
    have directory : object = .directory := eq_directory_of_kind same noLink
    -- The subdirectory is visited in turn, and its counterpart in the twin has its parent there.
    have onward : task.Visits before (names ++ [name]) := by
      refine ⟨directory ▸ standing, List.forall_mem_append.2 ⟨visits.2, ?_⟩⟩
      exact List.forall_mem_singleton.2 entered
    have below : Path.Beneath (Placement.directory task.source task.twin
        (task.source.extend (names ++ [name]))) task.twin (names ++ [name]) :=
      Placement.beneath_directory (.extend (onward.isPlain wellFormed))
    have higher : task.options.dryRun = false → asked.fileSystem.get?
        (task.place before (names ++ [name]).dropLast) = some .directory := by
      rw [List.dropLast_concat]
      exact (underway.next inStep still).enclosed
    have walked := deeper onward inStep.ahead inStep.behind
      (lockstep.materialize inStep onward below higher)
    rw [Path.extend_append_singleton] at walked
    refine walked.mono ?_
    rintro _ after _ after' ⟨inStep, further⟩
    exact underway.next inStep (still.trans further)
  next => exact follows_pure (underway.next inStep still)

/-- One walk follows another from where both account for the directory that they start in. -/
theorem follows_walk {depth : Nat} (visits : task.Visits before names)
    (sound : Sound task before state) (sound' : Sound (task.inMode dryRun) before state')
    (begins : Follows
      (materialize task (Placement.directory task.source task.twin (task.source.extend names)))
      (materialize (task.inMode dryRun)
        (Placement.directory task.source task.twin (task.source.extend names))) state state'
      fun _ after _ after' => Related after after') :
    Follows (walk task depth (task.source.extend names))
      (walk (task.inMode dryRun) depth (task.source.extend names)) state state'
      fun _ after _ after' => InStep task dryRun before Related after after' ∧
        Evolves (fun _ _ => True) state.fileSystem after.fileSystem := by
  obtain ⟨⟨grounded, grounded', undisturbed, _⟩, _⟩ := id lockstep
  induction depth generalizing state state' names with
  | zero => exact follows_throw
  | succ depth ih =>
    have deeper : WalksFollow task dryRun before Related depth := fun _ _ _ => ih
    have inside : Path.Beneath (task.source.extend names) task.source names :=
      .extend (visits.isPlain grounded.wellFormed)
    unfold walk
    refine Follows.bind (follows_materialize grounded grounded' visits
      (Placement.beneath_directory inside) sound sound' begins) ?_
    rintro _ prepared _ _ ⟨kept, there, inStep⟩
    refine Follows.bind (.of_leader (list_meets trivial)
      (follows_list lockstep.toTandem inside visits.1 inStep)) ?_
    rintro _ listed listing listed' ⟨⟨quiet, entries, read, directories, files⟩, rfl, inStep⟩
    rw [readDirectory_eq_children grounded kept.sound inside visits.1 read,
      kept.sound.listed_eq grounded undisturbed inside] at directories files
    have started : Underway task dryRun before Related names state.fileSystem listed listed' :=
      ⟨inStep, quiet.files ▸ there, quiet.files ▸ kept.evolves.mono fun _ _ _ => trivial⟩
    refine Follows.bind (follows_files lockstep visits files started) ?_
    rintro _ copied _ copied' between
    refine Follows.mono (follows_forM between ?_) fun _ _ _ _ underway =>
      ⟨underway.inStep, underway.evolves⟩
    rintro entry member state state' underway
    rw [directories] at member
    obtain ⟨⟨name, object⟩, within, rfl⟩ := List.mem_map.1 member
    exact follows_subdirectory lockstep deeper visits within underway

end Pass

end TwinTree
