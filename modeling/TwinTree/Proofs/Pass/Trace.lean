import TwinTree.Proofs.Pass.Interruption

/-!
# Walks with a trace

`walkTraced` and `runTraced` do what a walk and a pass do (`walk_eq`, `run_eq`) and say besides
which directories they have visited. A walk that succeeds has made a whole tour, and its progress
is that of the tour's directories and of the files taken from each (`walkTraced_meets`).
-/
namespace TwinTree.Pass

open FileSystem

/-- Walks a directory and gives the directories visited, in the order of the walk. -/
def walkTraced (task : Task) : Nat → Path → Pass (List Path)
  | 0, directory => throw (.directoryNotRead directory Failure.nameTooLong.message)
  | depth + 1, directory => do
    materialize task (Placement.directory task.source task.twin directory)
    let listing ← list directory
    listing.files.forM (handleFile task directory)
    listing.directories.foldlM (fun visited entry => do
      if ← admits task entry then
        let inner ← walkTraced task depth entry.path
        return visited ++ inner
      else return visited) [directory]

theorem walk_eq (task : Task) (depth : Nat) (directory : Path) :
    walk task depth directory = (do let _ ← walkTraced task depth directory) := by
  induction depth generalizing directory with
  | zero => rfl
  | succ depth ih =>
    rw [walk, walkTraced]
    simp only [bind_assoc]
    congr 1
    funext _
    congr 1
    funext listing
    congr 1
    funext _
    -- The traced loop carries what it has visited along and never looks at it.
    rw [forM_eq_foldlM]
    refine foldlM_eq_of_round (fun _ => ()) (fun visited entry => ?_) [directory]
    rw [bind_assoc]
    congr 1
    funext admitted
    cases admitted with
    | true => simp only [if_true, ih, bind_assoc, pure_bind]
    | false => rfl

/-! ### What a walk has done when it succeeds -/

variable {task : Task} {before : FileSystem} {state after : State} {names : List Name}

/-- A walk has made a tour, and what progress it should. -/
def Visited (task : Task) (before : FileSystem) (names : List Name) (state : State)
    (visited : List Path) (after : State) : Prop :=
  ∃ trails, visited = trails.map task.source.extend ∧
    Tour task before names (fun _ => True) trails ∧
    Progress task before trails (trails.flatMap (task.taken before)) state after

/-- Handling a file entry is progress by the one file, or by none if it is not taken. -/
theorem handleFile_advances {found : Name × Object} (grounded : Grounded task before)
    (undisturbed : Undisturbed before task.source task.twin)
    (beneath : Path.Beneath (task.source.extend names) task.source names)
    (sound : Sound task before state) (member : found ∈ task.listed before names .file) :
    Meets (handleFile task (task.source.extend names) (.ofEntry (task.source.extend names) found))
      state (fun _ after => Progress task before [] (task.takenAmong before names [found]) state
        after) fun after => Spared state after ∧ Sound task before after := by
  obtain ⟨standing, same⟩ := (task.mem_listed_iff grounded.wellFormed).1 member
  have entry : before.get? (found.1 :: task.stand before names) = some found.2 := by
    rwa [← task.stand_append_singleton]
  have takes := sound.takes_iff grounded undisturbed beneath entry
  refine Meets.mono ((handleFile_spares sound.wellFormed).and
    (handleFile_meets grounded sound standing (isDirectory_eq_false_of_kind same) beneath rfl)) ?_
    fun _ => id
  rintro _ after ⟨_, handled⟩
  rw [Task.takenAmong_singleton]
  cases handled with
  | passed refuses quiet =>
    rw [if_neg fun taken => refuses (takes.2 taken)]
    exact (Progress.refl sound).quiet quiet
  | copied taken copied =>
    have taken := takes.1 taken
    rw [if_pos taken]
    exact .of_copied grounded undisturbed beneath standing same taken copied

/-- The files of a directory are copied in order, those that are taken. -/
theorem files_meets {files : List SourceEntry} (grounded : Grounded task before)
    (undisturbed : Undisturbed before task.source task.twin)
    (beneath : Path.Beneath (task.source.extend names) task.source names)
    (progress : Progress task before [names] [] state after)
    (listed : files =
      (task.listed before names .file).map (.ofEntry (task.source.extend names))) :
    Meets (files.forM (handleFile task (task.source.extend names))) after
      (fun _ done => Progress task before [names] (task.taken before names) state done)
      (Interrupted task before state) := by
  -- After a number of entries, those among them that are taken have been copied.
  let invariant : List (Name × Object) → State → Prop := fun done after =>
    Progress task before [names] (task.takenAmong before names done) state after
  have loop : Meets ((task.listed before names .file).forM fun found =>
      handleFile task (task.source.extend names) (.ofEntry (task.source.extend names) found)) after
      (fun _ => invariant (task.listed before names .file)) (Interrupted task before state) := by
    refine meets_forM progress fun done found behind split middle kept => ?_
    have member : found ∈ task.listed before names .file := by simp [split]
    have doneTaken : ∀ file ∈ task.takenAmong before names done,
        file ∈ task.taken before file.names :=
      fun _ => Task.mem_taken_of_mem_takenAmong (split ▸ List.subset_append_left ..)
    refine (handleFile_advances grounded undisturbed beneath kept.sound member).mono
      (fun _ last further => ?_) fun _ failed => .of_progress kept doneTaken failed
    change Progress task before [names] (task.takenAmong before names (done ++ [found])) state last
    rw [Task.takenAmong_append]
    exact kept.trans further
  rw [listed, forM_map]
  exact loop

/-- What walks of a depth have done, whichever directory they start from. -/
def WalksMeet (task : Task) (before : FileSystem) (depth : Nat) : Prop :=
  ∀ ⦃state names⦄, Sound task before state →
    before.get? (task.stand before names) = some .directory →
    Meets (walkTraced task depth (task.source.extend names)) state
      (Visited task before names state) (Interrupted task before state)

/-- The subdirectories that are done make up a tour with the directory itself in front. -/
def Toured (task : Task) (before : FileSystem) (names : List Name) (state : State)
    (done : List (Name × Object)) (visited : List Path) (after : State) : Prop :=
  ∃ trails, visited = trails.map task.source.extend ∧
    Tour task before names (Covered names (done.map Prod.fst)) trails ∧
    Progress task before trails (trails.flatMap (task.taken before)) state after

theorem mem_taken_of_mem_flatMap {trails : List (List Name)} :
    ∀ file ∈ trails.flatMap (task.taken before), file ∈ task.taken before file.names := by
  intro file within
  obtain ⟨trail, _, taken⟩ := List.mem_flatMap.1 within
  rwa [Task.names_eq_of_mem_taken taken]

/-- One more subdirectory is walked, or is left out of the tour. -/
theorem subdirectory_meets {depth : Nat} {done behind : List (Name × Object)}
    {found : Name × Object} {visited : List Path} (grounded : Grounded task before)
    (deeper : WalksMeet task before depth)
    (split : task.listed before names .directory = done ++ found :: behind)
    (toured : Toured task before names state done visited after) :
    Meets (do
        if ← admits task (.ofEntry (task.source.extend names) found) then
          let inner ← walkTraced task depth
            (SourceEntry.ofEntry (task.source.extend names) found).path
          return visited ++ inner
        else return visited) after
      (Toured task before names state (done ++ [found])) (Interrupted task before state) := by
  obtain ⟨trails, rfl, tour, progress⟩ := toured
  have member : found ∈ task.listed before names .directory := by simp [split]
  obtain ⟨stands, same⟩ := (task.mem_listed_iff grounded.wellFormed).1 member
  -- The entries are sorted, so this subdirectory comes behind those that are done.
  have later : ∀ other ∈ done.map Prod.fst, Precedes other found.1 := by
    have ordered := task.listed_pairwise grounded.wellFormed names .directory
    rw [split] at ordered
    intro other within
    obtain ⟨earlier, isDone, rfl⟩ := List.mem_map.1 within
    exact (List.pairwise_append.1 ordered).2.2 earlier isDone found List.mem_cons_self
  refine Meets.bind admits_meets ?_
  rintro admitted asked ⟨quiet, enters⟩
  cases admitted with
  | false =>
    -- What is not entered, or is a link, is no directory to be toured.
    have nothing : Tour task before names (names ++ [found.1] <+: ·) [] := by
      refine .passed grounded.wellFormed fun entered directory => ?_
      have isDirectory : found.2 = .directory := Option.some.inj (stands.symm.trans directory)
      have noLink : found.2.isLink = false := by rw [isDirectory]; rfl
      exact absurd (enters.2 ⟨entered, noLink⟩) (by decide)
    refine meets_pure ⟨trails, rfl, ?_, progress.quiet quiet⟩
    simpa using tour.append nothing later
  | true =>
    obtain ⟨entered, noLink⟩ := enters.1 rfl
    have directory : found.2 = .directory := eq_directory_of_kind same noLink
    have walked := deeper (progress.quiet quiet).sound (directory ▸ stands)
    rw [Path.extend_append_singleton] at walked
    refine Meets.bind (walked.mono (fun _ _ => id) fun _ interrupted =>
      interrupted.behind (progress.quiet quiet) mem_taken_of_mem_flatMap) ?_
    rintro _ last ⟨inner, rfl, innerTour, innerProgress⟩
    refine meets_pure ⟨trails ++ inner, List.map_append.symm, ?_, ?_⟩
    · simpa using tour.append (innerTour.entered entered) later
    · rw [List.flatMap_append]
      exact (progress.quiet quiet).trans innerProgress

/-- All subdirectories together complete the tour. -/
theorem Toured.visited {visited : List Path} (grounded : Grounded task before)
    (toured : Toured task before names state (task.listed before names .directory) visited after) :
    Visited task before names state visited after := by
  obtain ⟨trails, rfl, tour, progress⟩ := toured
  refine ⟨trails, rfl, tour.finish grounded.wellFormed fun name directory => ?_, progress⟩
  have member : (name, Object.directory) ∈ task.listed before names .directory :=
    (task.mem_listed_iff grounded.wellFormed).2 ⟨directory, rfl⟩
  exact List.mem_map_of_mem member

/-- A walk that succeeds has visited exactly the directories that are reached, and one that fails
has come to a step that changes no file. -/
theorem walkTraced_meets {depth : Nat} (grounded : Grounded task before)
    (undisturbed : Undisturbed before task.source task.twin) (sound : Sound task before state)
    (standing : before.get? (task.stand before names) = some .directory) :
    Meets (walkTraced task depth (task.source.extend names)) state (Visited task before names state)
      (Interrupted task before state) := by
  have unmoved : ∀ {state after : State}, Sound task before state →
      Spared state after ∧ Sound task before after → Interrupted task before state after :=
    fun sound => .of_progress (.refl sound) (by simp)
  induction depth generalizing state names with
  | zero => exact meets_throw (unmoved sound ⟨.refl sound.wellFormed, sound⟩)
  | succ depth ih =>
    have deeper : WalksMeet task before depth := fun _ _ => ih
    have plain : ∀ name ∈ names, IsPlain name := fun name member =>
      grounded.wellFormed.isPlain standing name (by simp [Task.stand, member])
    have beneath : Path.Beneath (task.source.extend names) task.source names := .extend plain
    unfold walkTraced
    have prepares := ((materialize_spares sound.wellFormed).and (materialize_meets grounded sound
      standing (Placement.beneath_directory beneath))).mono (fun _ _ => id) fun _ => unmoved sound
    refine Meets.bind prepares ?_
    rintro _ prepared ⟨_, kept, there⟩
    have entered : Progress task before [names] [] state prepared := .of_kept kept there
    refine (list_meets (.of_progress entered (by simp)
      ⟨.refl kept.sound.wellFormed, kept.sound⟩)).bind ?_
    rintro listing listed ⟨quiet, entries, read, directories, files⟩
    rw [readDirectory_eq_children grounded kept.sound beneath standing read,
      kept.sound.listed_eq grounded undisturbed beneath] at directories files
    refine Meets.bind (files_meets grounded undisturbed beneath (entered.quiet quiet) files) ?_
    intro _ copied progress
    have started : Toured task before names state [] [task.source.extend names] copied :=
      ⟨[names], rfl, .start standing, by simpa using progress⟩
    rw [directories, List.foldlM_map]
    refine Meets.mono (meets_foldlM started fun done found behind split visited middle toured =>
      subdirectory_meets grounded deeper split toured) ?_ fun _ => id
    exact fun _ _ => Toured.visited grounded

/-- Runs a pass and gives the directories visited with the report. -/
def runTraced (source twin : Path) (options : Options) (policy : Policy) :
    Pass (List Path × Report) := do
  checkArguments source twin
  match prepare source twin options policy with
  | .error reason => throw (.invalidPattern ("Invalid exclude pattern: " ++ reason))
  | .ok task =>
    prepareRoot twin options.dryRun
    let visited ← walkTraced task depthLimit source
    return (visited, (← get).journal.report)

theorem run_eq (source twin : Path) (options : Options) (policy : Policy) :
    run source twin options policy =
      (do let (_, report) ← runTraced source twin options policy; return report) := by
  rw [run, runTraced]
  simp only [bind_assoc]
  congr 1
  funext _
  cases prepare source twin options policy with
  | error reason => rfl
  | ok task => simp only [bind_assoc, walk_eq, pure_bind]

end TwinTree.Pass
