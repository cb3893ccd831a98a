import TwinTree.Proofs.Pass.Trace

/-!
# Walks with visits

`walkWitnessed` and `runWitnessed` do what a walk and a pass do (`walkTraced_eq`,
`run_eq_witnessed`) and keep besides, for each directory visited, the file system of that moment
and what its file entries led to when they had their turns.
-/
namespace TwinTree

/-- A visit of a source directory. -/
structure Visit where
  directory : Path
  /-- The file system when the directory is listed. -/
  moment : FileSystem
  /-- The file entries that had their turn, each with what its path led to then. -/
  turns : List (SourceEntry × Except Failure Object)

namespace Visit

/-- What the directory holds when it is listed. -/
def entries (visit : Visit) : List (Name × Object) :=
  (visit.moment.readDirectory visit.directory).toOption.getD []

/-- The entries met that count as of one kind. -/
def met (visit : Visit) (kind : SourceEntry.Kind) : List SourceEntry :=
  (SourceEntry.ofKind visit.moment visit.directory kind visit.entries).map
    (.ofEntry visit.directory)

/-- The directory has been read, and each file entry in it has had its turn once. -/
structure Complete (visit : Visit) : Prop where
  read : ∃ entries, visit.moment.readDirectory visit.directory = .ok entries
  handled : (visit.turns.map Prod.fst).Perm (visit.met .file)

variable {fs : FileSystem} {directory : Path} {entries : List (Name × Object)}
  {turns : List (SourceEntry × Except Failure Object)}

theorem met_of_readDirectory (read : fs.readDirectory directory = .ok entries)
    (kind : SourceEntry.Kind) : (Visit.mk directory fs turns).met kind =
      (SourceEntry.ofKind fs directory kind entries).map (.ofEntry directory) := by
  rw [met, Visit.entries, read]
  rfl

/-- A visit in which the files have had their turns as they were listed is complete. -/
theorem complete_of_listed (read : fs.readDirectory directory = .ok entries)
    (had : turns.map Prod.fst =
      (SourceEntry.listed fs directory .file entries).map (.ofEntry directory)) :
    (Visit.mk directory fs turns).Complete := by
  refine ⟨⟨entries, read⟩, ?_⟩
  rw [met_of_readDirectory read, had]
  exact (SourceEntry.listed_perm ..).map _

end Visit

namespace Pass

variable {task : Task} {directory : Path}

/-- Gives a file entry its turn. -/
def takeTurn (task : Task) (directory : Path) (turns : List (SourceEntry × Except Failure Object))
    (entry : SourceEntry) : Pass (List (SourceEntry × Except Failure Object)) := do
  let target := (← fileSystem).stat entry.path
  handleFile task directory entry
  return turns ++ [(entry, target)]

/-- Walks a directory and gives the visits made, in the order of the walk. -/
def walkWitnessed (task : Task) : Nat → Path → Pass (List Visit)
  | 0, directory => throw (.directoryNotRead directory Failure.nameTooLong.message)
  | depth + 1, directory => do
    materialize task (Placement.directory task.source task.twin directory)
    let moment ← fileSystem
    let listing ← list directory
    let turns ← listing.files.foldlM (takeTurn task directory) []
    listing.directories.foldlM (fun visits entry => do
      if ← admits task entry then
        let inner ← walkWitnessed task depth entry.path
        return visits ++ inner
      else return visits) [⟨directory, moment, turns⟩]

/-- Asking for the file system alone changes nothing. -/
theorem fileSystem_bind {α : Type} (action : Pass α) : (do let _ ← fileSystem; action) = action :=
  rfl

theorem forM_handleFile_eq (files : List SourceEntry)
    (turns : List (SourceEntry × Except Failure Object)) :
    files.forM (handleFile task directory) =
      (do let _ ← files.foldlM (takeTurn task directory) turns) := by
  have round : ∀ turns entry, handleFile task directory entry =
      (do let _ ← takeTurn task directory turns entry) := by
    intro turns entry
    simp only [takeTurn, bind_assoc, pure_bind, bind_pure_unit, fileSystem_bind]
  rw [forM_eq_foldlM]
  exact foldlM_eq_of_round (fun _ => ()) round turns

/-- The directories of the visits are those of the trace. -/
theorem walkTraced_eq (depth : Nat) (directory : Path) :
    walkTraced task depth directory =
      (do return (← walkWitnessed task depth directory).map Visit.directory) := by
  induction depth generalizing directory with
  | zero => rfl
  | succ depth ih =>
    rw [walkTraced, walkWitnessed]
    simp only [bind_assoc, forM_handleFile_eq _ [], pure_bind]
    congr 1
    funext _
    rw [← fileSystem_bind (list directory >>= _)]
    congr 1
    funext moment
    congr 1
    funext listing
    congr 1
    funext turns
    -- One subdirectory after another, the visits made show the directories visited.
    refine foldlM_eq_of_round (List.map Visit.directory) (fun visits entry => ?_)
      [⟨directory, moment, turns⟩]
    rw [bind_assoc]
    congr 1
    funext admitted
    cases admitted with
    | true => simp only [if_true, ih, bind_assoc, pure_bind, List.map_append]
    | false => rfl

/-- Runs a pass and gives the visits made with the report. -/
def runWitnessed (source twin : Path) (options : Options) (policy : Policy) :
    Pass (List Visit × Report) := do
  checkArguments source twin
  match prepare source twin options policy with
  | .error reason => throw (.invalidPattern ("Invalid exclude pattern: " ++ reason))
  | .ok task =>
    prepareRoot twin options.dryRun
    let visits ← walkWitnessed task depthLimit source
    return (visits, (← get).journal.report)

theorem runTraced_eq (source twin : Path) (options : Options) (policy : Policy) :
    runTraced source twin options policy =
      (do
        let (visits, report) ← runWitnessed source twin options policy
        return (visits.map Visit.directory, report)) := by
  rw [runTraced, runWitnessed]
  simp only [bind_assoc]
  congr 1
  funext _
  cases prepare source twin options policy with
  | error reason => rfl
  | ok task => simp only [bind_assoc, walkTraced_eq, pure_bind]

theorem run_eq_witnessed (source twin : Path) (options : Options) (policy : Policy) :
    run source twin options policy =
      (do let (_, report) ← runWitnessed source twin options policy; return report) := by
  simp only [run_eq, runTraced_eq, bind_assoc, pure_bind]

end Pass

end TwinTree
