import TwinTree.Proofs.Correspondence
import TwinTree.Proofs.FileSystem.Respelling
import TwinTree.Proofs.Pass.Course
import TwinTree.Proofs.Pass.Expansion

/-!
# The directories that a walk knows

A directory that is not known yet is added to the list and counted, and a real pass has made it by
then; all other steps are steady. So at every moment of a walk the list and the count are right
about the twin (`walkCourse_keeps`). Where every renaming gives a single name, the known directories
are the places of the entered ones, the root of the twin among them.
-/
namespace TwinTree

open FileSystem

theorem State.knows_append {state after : State} {path other : Path}
    (added : after.materialized = state.materialized ++ [path]) :
    after.Knows other ↔ state.Knows other ∨ other.Same path := by
  have swapped : path.Same other ↔ other.Same path := ⟨Eq.symm, Eq.symm⟩
  simp [State.Knows, added, or_and_right, exists_or, swapped]

/-- Files may have been added, and nothing has become known. -/
structure Steady (state after : State) : Prop where
  extended : Extends state.fileSystem after.fileSystem
  known : after.materialized = state.materialized
  counted : after.journal.report.directories = state.journal.report.directories

/-- A directory has become known: it is counted, and a real pass has made it. -/
structure Gained (task : Task) (path : Path) (state after : State) : Prop where
  extended : Extends state.fileSystem after.fileSystem
  known : after.materialized = state.materialized ++ [path]
  counted : after.journal.report.directories = state.journal.report.directories + 1
  made : task.options.dryRun = false → path.bytes ≠ [] →
    after.fileSystem.isDirectory path = true

/-- The list of known directories has no place twice and is as long as the count says, and in a real
pass what it names is there. The empty path names nothing. -/
structure Tallied (task : Task) (state : State) : Prop where
  orderly : state.fileSystem.Orderly
  counted : state.journal.report.directories = state.materialized.length
  distinct : (state.materialized.map Path.components).Nodup
  standing : task.options.dryRun = false → ∀ path ∈ state.materialized, path.bytes ≠ [] →
    state.fileSystem.isDirectory path = true

/-- Some directories of the source have been entered, and their places are known, as is the root of
the twin in a real pass. -/
structure Charted (task : Task) (entered : List Path) (state : State) : Prop where
  beneath : ∀ directory ∈ entered, ∃ names, Path.Beneath directory task.source names
  -- The source is entered before anything else.
  source : entered ≠ [] → task.source ∈ entered
  knows_iff : ∀ path, state.Knows path ↔
    (task.options.dryRun = false ∧ path.Same task.twin) ∨
      ∃ directory ∈ entered, path.Same (Placement.directory task.source task.twin directory)

/-- What holds at every moment of a walk. -/
structure Accounted (task : Task) (entered : List Path) (state : State) : Prop where
  tallied : Tallied task state
  charted : PlainRenamings task.options.renamings → Charted task entered state

variable {task : Task} {state middle after : State} {entered : List Path} {path : Path}
  {names : List Name}

/-- A directory that was not known yet. -/
theorem Gained.tallied (gained : Gained task path state after) (unknown : ¬ state.Knows path)
    (tallied : Tallied task state) : Tallied task after where
  orderly := gained.extended.orderly
  counted := by rw [gained.counted, gained.known, tallied.counted, List.length_append]; rfl
  distinct := by
    rw [gained.known, List.map_append]
    refine tallied.distinct.append (List.nodup_singleton _) ?_
    -- A known directory with the same components would be another spelling of the new one.
    rintro _ old new
    obtain ⟨known, member, rfl⟩ := List.mem_map.1 old
    exact unknown ⟨known, member, List.mem_singleton.1 new⟩
  standing real other member nonempty := by
    rw [gained.known] at member
    rcases List.mem_append.1 member with old | new
    · exact gained.extended.isDirectory (tallied.standing real other old nonempty)
    · obtain rfl := List.mem_singleton.1 new
      exact gained.made real nonempty

namespace Charted

/-- With a directory that is entered its place becomes known, and nothing else does. -/
theorem enter {directory : Path} (charted : Charted task entered state)
    (beneath : Path.Beneath directory task.source names)
    (rooted : directory = task.source ∨ task.source ∈ entered)
    (knows_iff : ∀ path, after.Knows path ↔ state.Knows path ∨
      path.Same (Placement.directory task.source task.twin directory)) :
    Charted task (entered ++ [directory]) after where
  beneath := List.forall_mem_append.2 ⟨charted.beneath, by simpa using ⟨names, beneath⟩⟩
  source _ := by rcases rooted with rfl | member <;> simp [*]
  knows_iff path := by
    rw [knows_iff, charted.knows_iff, or_assoc]
    simp [or_and_right, exists_or]

/-- A file stands in the place of its directory, so the parent of its own place is known. -/
theorem knows_parent {directory parent : Path} {name : Name} (charted : Charted task entered state)
    (replaced : PlainRenamings task.options.renamings) (member : directory ∈ entered)
    (plain : IsPlain name)
    (found : (Placement.file task.source task.twin task.options.renamings
      (directory.join ⟨name⟩)).parent? = some parent) : state.Knows parent := by
  obtain ⟨names, beneath⟩ := charted.beneath directory member
  obtain ⟨⟨_, found', same⟩, _⟩ :=
    @Placement.exists_parent?_file_same _ task.twin _ _ _ _ replaced beneath plain
  cases found.symm.trans found'
  exact (charted.knows_iff parent).2 (.inr ⟨directory, member, same⟩)

end Charted

/-! ### Steady steps -/

namespace Steady

theorem refl (orderly : state.fileSystem.Orderly) : Steady state state := ⟨.refl orderly, rfl, rfl⟩

theorem trans (first : Steady state middle) (second : Steady middle after) :
    Steady state after where
  extended := first.extended.trans second.extended
  known := second.known.trans first.known
  counted := second.counted.trans first.counted

theorem tallied (steady : Steady state after) (tallied : Tallied task state) :
    Tallied task after where
  orderly := steady.extended.orderly
  counted := by rw [steady.counted, steady.known, tallied.counted]
  distinct := steady.known ▸ tallied.distinct
  standing real path member nonempty :=
    steady.extended.isDirectory (tallied.standing real path (steady.known ▸ member) nonempty)

theorem accounted (steady : Steady state after) (accounted : Accounted task entered state) :
    Accounted task entered after where
  tallied := steady.tallied accounted.tallied
  charted replaced := by
    obtain ⟨beneath, source, knows_iff⟩ := accounted.charted replaced
    refine ⟨beneath, source, fun path => ?_⟩
    rw [State.Knows, steady.known]
    exact knows_iff path

end Steady

namespace Pass

variable {α β : Type} {action : Pass α} {next : α → Pass β}

/-- However an action ends, it has been steady. -/
def Steadies (action : Pass α) : Prop :=
  ∀ state : State, state.fileSystem.Orderly →
    Meets action state (fun _ after => Steady state after) (Steady state)

namespace Steadies

theorem bind (first : Steadies action) (second : ∀ value, Steadies (next value)) :
    Steadies (action >>= next) := fun state orderly =>
  (first state orderly).bind_trans
    (fun value middle steady => second value middle steady.extended.orderly) .trans

theorem count {change : Report → Report}
    (same : ∀ report, (change report).directories = report.directories) :
    Steadies (count change) :=
  fun state orderly => meets_modify ⟨.refl orderly, rfl, same state.journal.report⟩

theorem change {access : FileSystem → Except Failure FileSystem} {error : String → Error}
    (keeps : ∀ {fs made : FileSystem}, fs.Orderly → access fs = .ok made → Extends fs made) :
    Steadies (change access error) := fun _ orderly =>
  meets_change (fun _ made => ⟨keeps orderly made, rfl, rfl⟩) (.refl orderly)

end Steadies

/-- Looking at the state and taking notes is steady. -/
theorem notes_steadies : Notes Steadies where
  pure _ _ := meets_pure ∘ .refl
  bind := .bind
  throw _ _ := meets_throw ∘ .refl
  look _ _ := .refl
  routine routine _ orderly :=
    meets_modify ⟨.refl orderly, rfl, by cases routine <;> rfl⟩

/-! ### Accounting for a directory -/

/-- A directory that is not known yet becomes so, and where that fails nothing does. -/
theorem materialize_gains (orderly : state.fileSystem.Orderly) (unknown : ¬ state.Knows path) :
    Meets (materialize task path) state (fun _ => Gained task path state) (Steady state) := by
  have extended := createDirectories_extends orderly path
  have unlisted := Bool.eq_false_iff.2 (mt isMaterialized_iff.1 unknown)
  unfold materialize
  apply meets_isMaterialized_bind
  rw [unlisted, if_neg (by decide)]
  -- Where the place is safe, a dry run takes the directory to exist and a real pass makes it.
  refine meets_requireSafe_bind (fun _ => ?_) (.refl orderly)
  split
  next dry =>
    exact meets_modify_bind (meets_modify
      ⟨.refl orderly, rfl, rfl, fun real => absurd (real.symm.trans dry) nofun⟩)
  next =>
    refine (ensureDirectory_meets unlisted ⟨extended, rfl, rfl⟩).bind ?_
    rintro _ made ⟨rfl, created, known, journal⟩
    rw [created] at extended
    refine meets_modify_bind (meets_modify ⟨extended, known, ?_, fun _ nonempty => ?_⟩)
    · rw [← journal]
      rfl
    · exact isDirectory_of_createDirectories nonempty created

/-- Whether it has been known before or not, a directory that is accounted for is known. -/
theorem materialize_tallied (tallied : Tallied task state) :
    Meets (materialize task path) state
      (fun _ after => Tallied task after ∧
        ∀ other, after.Knows other ↔ state.Knows other ∨ other.Same path)
      (Steady state) := by
  by_cases known : state.Knows path
  · refine meets_of_run (run_materialize_of_known known) ⟨tallied, fun other => ⟨.inl, ?_⟩⟩
    rintro (knows | same)
    · exact knows
    · obtain ⟨listed, member, same'⟩ := known
      exact ⟨listed, member, same'.trans same.symm⟩
  · refine (materialize_gains tallied.orderly known).mono (fun _ after gained => ?_) fun _ => id
    exact ⟨gained.tallied known tallied, fun _ => State.knows_append gained.known⟩

/-- The place of a directory that is entered is accounted for. -/
theorem materialize_accounted {directory : Path}
    (beneath : Path.Beneath directory task.source names)
    (rooted : directory = task.source ∨ task.source ∈ entered)
    (accounted : Accounted task entered state) :
    Meets (materialize task (Placement.directory task.source task.twin directory)) state
      (fun _ => Accounted task (entered ++ [directory])) (Accounted task entered) :=
  (materialize_tallied accounted.tallied).mono
    (fun _ _ ⟨tallied, knows_iff⟩ =>
      ⟨tallied, fun replaced => (accounted.charted replaced).enter beneath rooted knows_iff⟩)
    fun _ steady => steady.accounted accounted

/-- So is the directory that holds the place of a file, where that is not known already. -/
theorem materialize_parent_accounted {directory parent : Path} {name : Name}
    (member : directory ∈ entered) (plain : IsPlain name)
    (found : (Placement.file task.source task.twin task.options.renamings
      (directory.join ⟨name⟩)).parent? = some parent)
    (accounted : Accounted task entered state) :
    Meets (materialize task parent) state (fun _ => Accounted task entered)
      (Accounted task entered) := by
  -- A renaming that gives no single name may lead elsewhere, and then the directory may be new.
  by_cases replaced : PlainRenamings task.options.renamings
  · have knows := (accounted.charted replaced).knows_parent replaced member plain found
    exact meets_of_run (run_materialize_of_known knows) accounted
  · exact (materialize_tallied accounted.tallied).mono
      (fun _ _ ends => ⟨ends.1, fun impossible => absurd impossible replaced⟩)
      fun _ steady => steady.accounted accounted

/-! ### Every moment of a walk -/

open Course

/-- A steady step keeps the accounts, so only what comes after it matters. -/
theorem keeps_steady_bind {next : α → Course β} {requests : State → List Request}
    (steadies : Steadies action)
    (accounted : Accounted task entered state)
    (onward : ∀ value after, Accounted task entered after →
      (next value).Keeps (Accounted task) entered after) :
    (act action requests >>= next).Keeps (Accounted task) entered state :=
  keeps_act_bind accounted ((steadies state accounted.tallied.orderly).mono
    (fun value after steady => onward value after (steady.accounted accounted))
    fun _ steady => steady.accounted accounted)

theorem keeps_steady {requests : State → List Request} (steadies : Steadies action)
    (accounted : Accounted task entered state) :
    (act action requests).Keeps (Accounted task) entered state :=
  keeps_steady_bind steadies accounted fun _ _ => id

theorem writeCourse_keeps {source destination : Path} {content : List UInt8}
    (accounted : Accounted task entered state) :
    (writeCourse source destination content).Keeps (Accounted task) entered state := by
  unfold writeCourse
  refine keeps_steady_bind (.change fun orderly => ensureWritable_extends orderly) accounted
    fun _ _ accounted => ?_
  refine keeps_steady_bind (.change fun orderly => writeFile_extends orderly) accounted
    fun _ _ accounted => ?_
  exact keeps_steady (.change fun orderly => copyMode_extends orderly) accounted

theorem depositCourse_keeps {directory destination : Path}
    (accounted : Accounted task entered state) :
    (depositCourse task directory path destination).Keeps (Accounted task) entered state := by
  have notes := notes_steadies
  unfold depositCourse
  refine keeps_steady_bind notes.requireSafe accounted fun _ _ accounted => ?_
  refine keeps_steady_bind (notes.ask fun _ => nofun) accounted fun text _ accounted => ?_
  split
  next =>
    refine keeps_steady_bind (notes.routine (.note _ _)) accounted fun _ _ accounted => ?_
    exact keeps_steady (.count fun _ => rfl) accounted
  next =>
    refine keeps_steady_bind (notes.routine (.note _ _)) accounted fun _ _ accounted => ?_
    refine (writeCourse_keeps accounted).bind fun _ later state _ accounted => ?_
    exact keeps_steady (.count fun _ => rfl) accounted

theorem copyCourse_keeps {directory : Path} {name : Name} (member : directory ∈ entered)
    (plain : IsPlain name) (accounted : Accounted task entered state) :
    (copyCourse task directory (directory.join ⟨name⟩)).Keeps (Accounted task) entered state := by
  unfold copyCourse
  dsimp only
  split
  next parent found =>
    refine keeps_act_bind accounted ?_
    exact (materialize_parent_accounted member plain found accounted).mono
      (fun _ _ => depositCourse_keeps) fun _ => id
  next => exact depositCourse_keeps accounted

theorem handleCourse_keeps {directory : Path} {name : Name} {object : Object}
    (member : directory ∈ entered) (plain : IsPlain name)
    (accounted : Accounted task entered state) :
    (handleCourse task directory (.ofEntry directory (name, object))).Keeps (Accounted task)
      entered state := by
  have notes := notes_steadies
  unfold handleCourse
  refine keeps_steady_bind (notes.routine .scanned) accounted fun _ _ accounted => ?_
  split
  next => exact accounted
  next =>
    refine keeps_steady_bind (notes.routine (.note _ _)) accounted fun _ _ accounted => ?_
    exact keeps_steady (notes.routine .skipped) accounted
  next =>
    refine keeps_steady_bind (notes.routine .matched) accounted fun _ _ accounted => ?_
    refine keeps_steady_bind notes.hasContent accounted fun has _ accounted => ?_
    split
    next => exact copyCourse_keeps member plain accounted
    next => exact accounted

/-- A walk from a directory of the source keeps the accounts. Only the source itself may come
before it. -/
theorem walkCourse_keeps {depth : Nat} {directory : Path}
    (beneath : Path.Beneath directory task.source names)
    (rooted : directory = task.source ∨ task.source ∈ entered)
    (accounted : Accounted task entered state) :
    (walkCourse task depth directory).Keeps (Accounted task) entered state := by
  have notes := notes_steadies
  induction depth generalizing directory names entered state with
  | zero => exact keeps_steady (notes.throw nofun) accounted
  | succ depth ih =>
    unfold walkCourse
    refine keeps_enter_bind accounted
      ((materialize_accounted beneath rooted accounted).mono (fun _ ready accounted => ?_)
        fun _ => id)
    have steadies : Steadies (list directory) := notes.list
    have orderly := accounted.tallied.orderly
    have lists := (steadies ready orderly).and (list_meets_named orderly.namesPlain)
    refine keeps_act_bind accounted (lists.mono ?_ fun _ ends => ends.1.accounted accounted)
    rintro listing listed ⟨steady, named⟩
    obtain ⟨files, directories⟩ := List.forall_mem_append.1 named
    have accounted := steady.accounted accounted
    -- The directory stays among those entered, and so does the source.
    have source : task.source ∈ entered ++ [directory] := by
      rcases rooted with rfl | member <;> simp [*]
    refine (keeps_forM accounted fun entry within later state longer accounted => ?_).bind
      fun _ later state longer accounted => ?_
    · obtain ⟨name, object, plain, rfl⟩ := files entry within
      exact handleCourse_keeps (longer.subset (by simp)) plain accounted
    · refine keeps_forM accounted fun entry within further state longer' accounted => ?_
      obtain ⟨name, object, plain, rfl⟩ := directories entry within
      refine keeps_steady_bind notes.admits accounted fun admitted _ accounted => ?_
      split
      next => exact ih (beneath.join plain) (.inr (longer'.subset (longer.subset source))) accounted
      next => exact accounted

end Pass

end TwinTree
