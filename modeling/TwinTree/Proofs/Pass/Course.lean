import TwinTree.Proofs.Pass.Reasoning
import TwinTree.Proofs.Pass.Requests

/-!
# The course of a pass

A course is a program taken apart into its steps, between which one may look at the state. The
courses of a walk and of a whole pass do what these do (`run_walkCourse`, `run_passCourse`), and
`Reaches` gives every state that a course comes to, the one that an error leaves included, with the
source directories entered by then. What each step keeps holds in all of these states
(`Course.Keeps.holds`).
-/
namespace TwinTree

/-- A program as a tree: the value it gives, or a step and how to go on with what the step gives.
With a step a directory of the source may be entered, and to take it some calls are made. -/
inductive Course (α : Type) : Type 1 where
  | done (value : α)
  | step {β : Type} (entering : Option Path) (requests : State → List Request) (action : Pass β)
      (next : β → Course α)

namespace Course

variable {α β : Type}

def bind : Course α → (α → Course β) → Course β
  | done value, onward => onward value
  | step entering requests action next, onward =>
    step entering requests action fun value => (next value).bind onward

instance : Monad Course where
  pure := done
  bind := bind

/-- A single step. -/
def act (action : Pass α) (requests : State → List Request := fun _ => []) : Course α :=
  step none requests action done

/-- A single step with which a directory is entered. -/
def enter (directory : Path) (action : Pass α) (requests : State → List Request) : Course α :=
  step (some directory) requests action done

/-- What all steps do together. -/
def run : Course α → Pass α
  | done value => pure value
  | step _ _ action next => do (next (← action)).run

/-- A course started in a state comes to another one when some directories have been entered. -/
inductive Reaches : Course α → State → List Path → State → Prop where
  | here {course : Course α} {state : State} : Reaches course state [] state
  | stopped {β : Type} {entering : Option Path} {requests : State → List Request}
      {action : Pass β} {next : β → Course α} {state after : State} {error : Error} :
      EStateM.run action state = .error error after →
      Reaches (step entering requests action next) state [] after
  | onward {β : Type} {entering : Option Path} {requests : State → List Request}
      {action : Pass β} {next : β → Course α} {state middle after : State} {value : β}
      {entered : List Path} :
      EStateM.run action state = .ok value middle → Reaches (next value) middle entered after →
      Reaches (step entering requests action next) state (entering.toList ++ entered) after

/-- From a state in which some directories have been entered, the invariant holds wherever the
course comes to: here, after each step, and where a step has failed. -/
def Keeps (invariant : List Path → State → Prop) : Course α → List Path → State → Prop
  | done _, entered, state => invariant entered state
  | step entering _ action next, entered, state =>
    invariant entered state ∧ Pass.Meets action state
      (fun value after => (next value).Keeps invariant (entered ++ entering.toList) after)
      (invariant entered)

end Course

namespace Pass

open Course

/-- The steps of writing a file, each of which may change it. -/
def writeCourse (source destination : Path) (content : List UInt8) : Course Unit := do
  act (change (·.ensureWritable destination) (.fileNotWritten destination))
    (openRequests destination)
  act (change (·.writeFile destination content) (.fileNotWritten destination))
    fun _ => writeRequests destination
  act (change (·.copyMode source destination) (.fileNotWritten destination))
    (modeRequests source destination)

/-- The steps of copying a file to its place. -/
def depositCourse (task : Task) (directory path destination : Path) : Course Unit := do
  act (requireSafe task destination) (safetyRequests task destination)
  let stripping := task.policy directory
  let text ← act (ask (·.readText path) (.fileNotRead path)) fun _ => readRequests path
  let content := Utf8.encode (adapt task.rules stripping text)
  let record : Record := ⟨path, destination, stripping⟩
  if task.options.dryRun then
    act (note .info ("Would copy " ++ path.display ++ " -> " ++ destination.display))
    act (count (·.addPlanned record))
  else
    act (note .info ("Copying " ++ path.display ++ " -> " ++ destination.display))
    writeCourse path destination content
    act (count (·.addCopied record))

/-- The steps of copying a file. The directory that holds its place is accounted for first. -/
def copyCourse (task : Task) (directory path : Path) : Course Unit := do
  let destination := Placement.file task.source task.twin task.options.renamings path
  if let some parent := destination.parent? then
    act (materialize task parent) (directoryRequests task parent)
  depositCourse task directory path destination

/-- The steps of handling a file entry. -/
def handleCourse (task : Task) (directory : Path) (entry : SourceEntry) : Course Unit := do
  act (count .addScanned)
  match Selection.ofName task.options task.excludedFiles entry.name with
  | .unrecognized => return
  | .skipped =>
    act (note .debug ("Skipped " ++ entry.path.display))
    act (count .addSkipped)
  | .selected =>
    act (count .addMatched)
    if ← act (hasContent entry) fun _ => contentRequests entry then
      copyCourse task directory entry.path

/-- The steps of a walk. A directory is entered as its place in the twin is accounted for. -/
def walkCourse (task : Task) : Nat → Path → Course Unit
  | 0, directory => act (throw (.directoryNotRead directory Failure.nameTooLong.message))
  | depth + 1, directory => do
    let place := Placement.directory task.source task.twin directory
    enter directory (materialize task place) (directoryRequests task place)
    let listing ← act (list directory) fun _ => listRequests directory
    listing.files.forM (handleCourse task directory)
    listing.directories.forM fun entry => do
      if ← act (admits task entry) then walkCourse task depth entry.path

/-- The steps of a whole pass. -/
def passCourse (source twin : Path) (options : Options) (policy : Policy) : Course Report := do
  act (checkArguments source twin) fun _ => argumentRequests source
  match prepare source twin options policy with
  | .error reason => act (throw (.invalidPattern ("Invalid exclude pattern: " ++ reason)))
  | .ok task =>
    act (prepareRoot twin options.dryRun) fun _ => rootRequests twin options.dryRun
    walkCourse task depthLimit source
    act (return (← get).journal.report)

end Pass

namespace Course

variable {α β : Type} {course : Course α} {next : α → Course β} {action : Pass α}
  {requests : State → List Request}

/-! ### What the steps do together -/

@[simp]
theorem run_pure (value : α) : (pure value : Course α).run = pure value := rfl

@[simp]
theorem run_bind (course : Course α) (next : α → Course β) :
    (course >>= next).run = course.run >>= fun value => (next value).run := by
  induction course with
  | done value => rfl
  | step entering requests action rest ih =>
    change (action >>= fun value => (rest value >>= next).run) = (action >>= _) >>= _
    simp only [ih, bind_assoc]

@[simp]
theorem run_act (action : Pass α) (requests : State → List Request) :
    (act action requests).run = action := bind_pure action

@[simp]
theorem run_enter (directory : Path) (action : Pass α) (requests : State → List Request) :
    (enter directory action requests).run = action := bind_pure action

@[simp]
theorem run_forM (items : List α) (body : α → Course PUnit) :
    (forM items body).run = forM items fun item => (body item).run := by
  induction items with
  | nil => rfl
  | cons item rest ih => rw [List.forM_cons, List.forM_cons, run_bind, ih]

/-- The state in which a run ends is on its course, whether the run succeeds or not. -/
theorem run_reaches (course : Course α) (state : State) :
    Pass.Meets course.run state (fun _ after => ∃ entered, course.Reaches state entered after)
      fun after => ∃ entered, course.Reaches state entered after := by
  induction course generalizing state with
  | done => exact Pass.meets_pure ⟨[], .here⟩
  | step entering requests action next ih =>
    have first : Pass.Meets action state
        (fun value after => EStateM.run action state = .ok value after)
        fun after => ∃ error, EStateM.run action state = .error error after := by
      unfold Pass.Meets
      split
      next found => exact found
      next error _ found => exact ⟨error, found⟩
    have onward : ∀ value middle, EStateM.run action state = .ok value middle →
        ∀ after, (∃ entered, (next value).Reaches middle entered after) →
          ∃ entered, (step entering requests action next).Reaches state entered after :=
      fun _ _ found _ ⟨entered, reaches⟩ => ⟨entering.toList ++ entered, .onward found reaches⟩
    refine Pass.Meets.bind (first.mono (fun _ _ => id) fun _ ⟨_, found⟩ => ⟨[], .stopped found⟩) ?_
    exact fun value middle found =>
      (ih value middle).mono (fun _ => onward value middle found) (onward value middle found)

/-! ### Keeping an invariant -/

variable {invariant : List Path → State → Prop} {entered more : List Path} {state after : State}
  {directory : Path}

theorem Keeps.here (keeps : course.Keeps invariant entered state) : invariant entered state := by
  cases course with
  | done => exact keeps
  | step => exact keeps.1

/-- What is kept holds in every state that the course comes to. -/
theorem Keeps.holds (keeps : course.Keeps invariant entered state)
    (reaches : course.Reaches state more after) : invariant (entered ++ more) after := by
  induction reaches generalizing entered with
  | here => simpa using keeps.here
  | stopped failed => simpa using keeps.2.of_run_error failed
  | onward first _ ih => simpa using ih (keeps.2.of_run first)

theorem Keeps.bind (keeps : course.Keeps invariant entered state)
    (onward : ∀ value later state, entered <+: later → invariant later state →
      (next value).Keeps invariant later state) :
    (course >>= next).Keeps invariant entered state := by
  induction course generalizing entered state with
  | done value => exact onward value entered state List.prefix_rfl keeps
  | step entering requests action rest ih =>
    refine ⟨keeps.1, keeps.2.mono (fun value after kept => ?_) fun _ => id⟩
    refine ih value kept fun value later state longer => onward value later state ?_
    exact (List.prefix_append entered entering.toList).trans longer

theorem keeps_act_bind (holds : invariant entered state)
    (meets : Pass.Meets action state
      (fun value after => (next value).Keeps invariant entered after) (invariant entered)) :
    (act action requests >>= next).Keeps invariant entered state := by
  refine ⟨holds, meets.mono (fun value after kept => ?_) fun _ => id⟩
  rw [Option.toList_none, List.append_nil]
  exact kept

theorem keeps_enter_bind (holds : invariant entered state)
    (meets : Pass.Meets action state
      (fun value after => (next value).Keeps invariant (entered ++ [directory]) after)
      (invariant entered)) :
    (enter directory action requests >>= next).Keeps invariant entered state :=
  ⟨holds, meets⟩

/-- A loop each of whose rounds keeps the invariant, whatever has been entered before it. -/
theorem keeps_forM {items : List α} {body : α → Course PUnit} (holds : invariant entered state)
    (round : ∀ item ∈ items, ∀ later state, entered <+: later → invariant later state →
      (body item).Keeps invariant later state) :
    (forM items body).Keeps invariant entered state := by
  induction items generalizing entered state with
  | nil => exact holds
  | cons item rest ih =>
    rw [List.forM_cons]
    rw [List.forall_mem_cons] at round
    refine (round.1 entered state List.prefix_rfl holds).bind fun _ later state longer kept => ?_
    exact ih kept fun other member further after =>
      fun beyond => round.2 other member further after (longer.trans beyond)

end Course

namespace Pass

open Course

theorem run_copyCourse (task : Task) (directory path : Path) :
    (copyCourse task directory path).run = copy task directory path := by
  unfold copyCourse depositCourse writeCourse copy write
  dsimp only
  cases (Placement.file task.source task.twin task.options.renamings path).parent? <;>
    cases task.options.dryRun <;> simp

theorem run_handleCourse (task : Task) (directory : Path) (entry : SourceEntry) :
    (handleCourse task directory entry).run = handleFile task directory entry := by
  unfold handleCourse handleFile
  cases Selection.ofName task.options task.excludedFiles entry.name <;>
    simp [apply_ite Course.run, run_copyCourse]

/-- The course of a walk does what the walk does. -/
theorem run_walkCourse (task : Task) (depth : Nat) (directory : Path) :
    (walkCourse task depth directory).run = walk task depth directory := by
  induction depth generalizing directory with
  | zero => exact run_act _ _
  | succ depth ih =>
    unfold walkCourse walk
    simp [apply_ite Course.run, run_handleCourse, ih]

/-- The course of a pass does what the pass does. -/
theorem run_passCourse (source twin : Path) (options : Options) (policy : Policy) :
    (passCourse source twin options policy).run = Pass.run source twin options policy := by
  unfold passCourse Pass.run
  cases prepare source twin options policy <;> simp [run_walkCourse]

end Pass

end TwinTree
