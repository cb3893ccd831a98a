import TwinTree.Proofs.Pass.Course

/-!
# A pass in its surroundings

A file system keeps two things to itself that a pass may run into: several names may belong to one
file, so that writing to one of them changes what all of them show, and a call may be refused, by
missing rights or by a fault, though nothing stands in its way. `deriveIn` runs a pass where both
may happen. Where neither does, it is the pass (`deriveIn_plain`); a refused call ends the pass in
a state that its course comes to (`Course.runIn_of_refused`).
-/
namespace TwinTree

/-- What surrounds a pass. -/
structure System where
  /-- The names of each file that has more than one. -/
  links : List (List Location) := []
  /-- Why a call is refused, by its number and by what it asks for. -/
  refuses : Nat → Call → Option String := fun _ _ => none

/-- Gives all names of a file what has been changed under one of them. -/
def FileSystem.share (links : List (List Location)) (before after : FileSystem) : FileSystem :=
  links.foldl (fun fs names =>
    match (names.find? fun name => before.get? name ≠ fs.get? name).bind fs.get? with
    | some object => names.foldl (fun fs name => fs.insert name object) fs
    | none => fs) after

/-- The error of the first of some requests to be refused. -/
def refusal? (refuses : Nat → Call → Option String) : List Request → Option Error
  | [] => none
  | request :: rest =>
    match refuses 0 request.call with
    | some reason => some (request.raise reason)
    | none => refusal? (fun number => refuses (number + 1)) rest

namespace Course

variable {α β : Type}

/-- What the steps do together where files may have several names and calls may be refused. A step
is not taken if one of its calls is refused. -/
def runIn (links : List (List Location)) :
    Course α → (Nat → Call → Option String) → Pass α
  | done value, _ => pure value
  | step _ requests action next, refuses => do
    let state ← get
    match refusal? refuses (requests state) with
    | some error => throw error
    | none =>
      let value ← action
      modify fun after =>
        { after with fileSystem := .share links state.fileSystem after.fileSystem }
      (next value).runIn links fun number => refuses (number + (requests state).length)

/-- The calls that are made where none is refused. -/
def calls : Course α → State → List Call
  | done _, _ => []
  | step _ requests action next, state =>
    (requests state).map Request.call ++ match EStateM.run action state with
      | .ok value after => (next value).calls after
      | .error _ _ => []

/-- A call of the course is refused. -/
def MeetsRefusal (course : Course α) (state : State) (refuses : Nat → Call → Option String) :
    Prop :=
  ∃ number call, (course.calls state)[number]? = some call ∧ refuses number call ≠ none

/-- Wherever a call of the course may be refused, the invariant holds of the request. -/
def Withstands (invariant : Request → State → Prop) : Course α → State → Prop
  | done _, _ => True
  | step _ requests action next, state =>
    (∀ request ∈ requests state, invariant request state) ∧
      Pass.Meets action state (fun value after => (next value).Withstands invariant after)
        fun _ => True

end Course

/-- Runs a pass under a policy in some surroundings. -/
def deriveIn (system : System) (fs : FileSystem) (source twin : Path) (options : Options)
    (policy : Policy) : Outcome :=
  match EStateM.run ((Pass.passCourse source twin options policy).runIn system.links
      system.refuses) { fileSystem := fs } with
  | .ok report state => ⟨.ok report, state.journal.log, state.fileSystem⟩
  | .error error state => ⟨.error error, state.journal.log, state.fileSystem⟩

/-- A directory `s` with a header `a.h` and a file that is no text, `b.h`, and a directory `d` that
shows the latter as `a.h`. -/
def linkedTree : FileSystem where
  entries :=
    [([[0x73]], .directory), ([[0x64]], .directory),
     ([[0x61, 0x2E, 0x68], [0x73]], .file [0x78] 0o644),
     ([[0x62, 0x2E, 0x68], [0x73]], .file [0xFF] 0o644),
     ([[0x61, 0x2E, 0x68], [0x64]], .file [0xFF] 0o644)]
  workingDirectory := []

/-- In `linkedTree`, `s/b.h` and `d/a.h` are one file. -/
def twoNames : System where
  links := [[[[0x61, 0x2E, 0x68], [0x64]], [[0x62, 0x2E, 0x68], [0x73]]]]

variable {α β : Type} {course : Course α} {next : α → Course β} {action : Pass α}
  {requests : State → List Request} {state after : State} {directory : Path}
  {refuses : Nat → Call → Option String}

/-! ### Requests that are refused -/

theorem refusal?_eq_none_iff {requests : List Request} : refusal? refuses requests = none ↔
    ∀ number request, requests[number]? = some request → refuses number request.call = none := by
  induction requests generalizing refuses with
  | nil => simp [refusal?]
  | cons request rest ih =>
    unfold refusal?
    constructor
    · intro granted
      split at granted
      next => cases granted
      next first =>
        rintro (_ | number) other found
        · cases found
          exact first
        · exact ih.1 granted number other found
    · intro granted
      rw [granted 0 request rfl]
      exact ih.2 fun number => granted (number + 1)

theorem exists_of_refusal? {requests : List Request} {error : Error}
    (refused : refusal? refuses requests = some error) :
    ∃ request ∈ requests, ∃ reason, error = request.raise reason := by
  induction requests generalizing refuses with
  | nil => cases refused
  | cons request rest ih =>
    unfold refusal? at refused
    split at refused
    next reason _ =>
      cases refused
      exact ⟨request, List.mem_cons_self, reason, rfl⟩
    next =>
      obtain ⟨other, member, raised⟩ := ih refused
      exact ⟨other, List.mem_cons_of_mem _ member, raised⟩

namespace Course

/-- What a step does in some surroundings, and what comes behind it. -/
theorem run_runIn_step (links : List (List Location)) (refuses : Nat → Call → Option String)
    (entering : Option Path) (requests : State → List Request) (action : Pass α)
    (next : α → Course β) (state : State) :
    EStateM.run ((step entering requests action next).runIn links refuses) state =
      match refusal? refuses (requests state), EStateM.run action state with
      | some error, _ => .error error state
      | none, .ok value after =>
        EStateM.run ((next value).runIn links fun number =>
          refuses (number + (requests state).length))
          { after with fileSystem := .share links state.fileSystem after.fileSystem }
      | none, .error error after => .error error after := by
  rw [runIn]
  change EStateM.run (match refusal? refuses (requests state) with
    | some error => throw error
    | none => _ : Pass β) state = _
  cases refusal? refuses (requests state) with
  | some error => rfl
  | none =>
    simp only
    rw [Pass.run_bind]
    cases EStateM.run action state <;> rfl

/-- A course meets a refusal at its first step, or behind it. -/
theorem meetsRefusal_step_iff {entering : Option Path} {next : α → Course β} :
    (step entering requests action next).MeetsRefusal state refuses ↔
      refusal? refuses (requests state) ≠ none ∨
      ∃ value after, EStateM.run action state = .ok value after ∧
        (next value).MeetsRefusal after fun number =>
          refuses (number + (requests state).length) := by
  rw [MeetsRefusal, calls, Ne, refusal?_eq_none_iff]
  constructor
  -- A call is numbered among the requests of the step, or else behind all of them.
  · rintro ⟨number, call, found, refused⟩
    by_cases early : number < (requests state).length
    · rw [List.getElem?_append_left (by simpa using early), List.getElem?_map] at found
      obtain ⟨request, within, rfl⟩ := Option.map_eq_some_iff.1 found
      exact .inl fun granted => refused (granted number request within)
    · rw [Nat.not_lt] at early
      rw [List.getElem?_append_right (by simpa using early), List.length_map] at found
      right
      cases ended : EStateM.run action state with
      | error => simp [ended] at found
      | ok value after =>
        rw [ended] at found
        refine ⟨value, after, rfl, _, call, found, ?_⟩
        dsimp only
        rwa [Nat.sub_add_cancel early]
  · rintro (refused | ⟨value, after, ended, number, call, found, refused⟩)
    · simp only [Classical.not_forall] at refused
      obtain ⟨number, request, within, refused⟩ := refused
      refine ⟨number, request.call, ?_, refused⟩
      have early := (List.getElem?_eq_some_iff.1 within).1
      rw [List.getElem?_append_left (by simpa using early), List.getElem?_map, within]
      rfl
    · refine ⟨number + (requests state).length, call, ?_, refused⟩
      rw [List.getElem?_append_right (by simp), ended]
      simpa using found

/-- Where no call is refused and no file has two names, a course runs as it does by itself. -/
theorem runIn_of_granted (granted : ¬ course.MeetsRefusal state refuses) :
    EStateM.run (course.runIn [] refuses) state = EStateM.run course.run state := by
  induction course generalizing state refuses with
  | done => rfl
  | step entering requests action next ih =>
    rw [meetsRefusal_step_iff, not_or, Classical.not_not] at granted
    rw [run_runIn_step, granted.1, run, Pass.run_bind]
    cases ended : EStateM.run action state with
    | error => rfl
    | ok value after =>
      exact ih value fun refused => granted.2 ⟨value, after, ended, refused⟩

/-- A refused call ends the course in an error, in a state in which the call was to be made. -/
theorem runIn_of_refused {invariant : Request → State → Prop}
    (withstands : course.Withstands invariant state)
    (refused : course.MeetsRefusal state refuses) : ∃ request reason after,
      EStateM.run (course.runIn [] refuses) state = .error (request.raise reason) after ∧
        invariant request after := by
  induction course generalizing state refuses with
  | done =>
    obtain ⟨_, _, found, _⟩ := refused
    cases found
  | step entering requests action next ih =>
    rw [run_runIn_step]
    cases first : refusal? refuses (requests state) with
    | some error =>
      obtain ⟨request, member, reason, rfl⟩ := exists_of_refusal? first
      exact ⟨request, reason, state, rfl, withstands.1 request member⟩
    | none =>
      obtain ⟨value, after, ended, later⟩ :=
        (meetsRefusal_step_iff.1 refused).resolve_left fun met => met first
      rw [ended]
      exact ih value (withstands.2.of_run ended) later

/-! ### Withstanding refusals -/

variable {invariant : Request → State → Prop}

theorem withstands_trivial (course : Course α) (state : State) :
    course.Withstands (fun _ _ => True) state := by
  induction course generalizing state with
  | done => trivial
  | step entering requests action next ih =>
    exact ⟨fun _ _ => trivial, Pass.meets_trivial.mono (fun value after _ => ih value after)
      fun _ => id⟩

theorem Withstands.mono {weaker : Request → State → Prop}
    (withstands : course.Withstands invariant state)
    (weakens : ∀ request state, invariant request state → weaker request state) :
    course.Withstands weaker state := by
  induction course generalizing state with
  | done => trivial
  | step entering requests action next ih =>
    exact ⟨fun request member => weakens request state (withstands.1 request member),
      withstands.2.mono (fun value _ => ih value) fun _ => id⟩

theorem Withstands.bind (withstands : course.Withstands invariant state)
    (onward : Pass.Meets course.run state
      (fun value after => (next value).Withstands invariant after) fun _ => True) :
    (course >>= next).Withstands invariant state := by
  induction course generalizing state with
  | done => exact onward
  | step entering requests action rest ih =>
    refine ⟨withstands.1, ?_⟩
    unfold Pass.Meets
    split
    next value after ended =>
      refine ih value (withstands.2.of_run ended) ?_
      unfold Pass.Meets at onward ⊢
      rwa [run, Pass.run_bind, ended] at onward
    next => trivial

theorem withstands_act_bind (holds : ∀ request ∈ requests state, invariant request state)
    (onward : Pass.Meets action state
      (fun value after => (next value).Withstands invariant after) fun _ => True) :
    (act action requests >>= next).Withstands invariant state :=
  ⟨holds, onward⟩

theorem withstands_act (holds : ∀ request ∈ requests state, invariant request state) :
    (act action requests).Withstands invariant state :=
  ⟨holds, Pass.meets_trivial⟩

/-- A step that asks for nothing is not refused. -/
theorem withstands_unasked_bind
    (onward : Pass.Meets action state
      (fun value after => (next value).Withstands invariant after) fun _ => True) :
    (act action >>= next).Withstands invariant state :=
  withstands_act_bind (List.forall_mem_nil _) onward

theorem withstands_unasked : (act action).Withstands invariant state :=
  withstands_act (List.forall_mem_nil _)

theorem withstands_enter_bind (holds : ∀ request ∈ requests state, invariant request state)
    (onward : Pass.Meets action state
      (fun value after => (next value).Withstands invariant after) fun _ => True) :
    (enter directory action requests >>= next).Withstands invariant state :=
  ⟨holds, onward⟩

/-- A loop withstands refusals where each of its rounds does and leaves what the next one needs. -/
theorem withstands_forM {items : List α} {body : α → Course PUnit} {ready : State → Prop}
    (start : ready state)
    (round : ∀ item ∈ items, ∀ middle, ready middle →
      (body item).Withstands invariant middle ∧
        Pass.Meets (body item).run middle (fun _ => ready) fun _ => True) :
    (forM items body).Withstands invariant state := by
  induction items generalizing state with
  | nil => trivial
  | cons item rest ih =>
    rw [List.forall_mem_cons] at round
    rw [List.forM_cons]
    obtain ⟨withstands, leaves⟩ := round.1 state start
    exact withstands.bind (leaves.mono (fun _ after left => ih left round.2) fun _ => id)

theorem withstands_forM_bind {items : List α} {body : α → Course PUnit} {ready : State → Prop}
    {next : PUnit → Course β} (start : ready state)
    (round : ∀ item ∈ items, ∀ middle, ready middle →
      (body item).Withstands invariant middle ∧
        Pass.Meets (body item).run middle (fun _ => ready) fun _ => True)
    (onward : ∀ after, ready after → (next ()).Withstands invariant after) :
    (forM items body >>= next).Withstands invariant state := by
  refine (withstands_forM start round).bind ?_
  rw [run_forM]
  exact (Pass.meets_forM_of_mem start fun item member middle left =>
    (round item member middle left).2).mono (fun _ after => onward after) fun _ => id

end Course

/-! ### Whole passes -/

variable {fs : FileSystem} {source twin : Path} {options : Options} {policy : Policy}

theorem Pass.run_of_granted {after : EStateM.Result Error State Report}
    (granted : ¬ (passCourse source twin options policy).MeetsRefusal { fileSystem := fs } refuses)
    (ended : EStateM.run ((passCourse source twin options policy).runIn [] refuses)
      { fileSystem := fs } = after) :
    EStateM.run (run source twin options policy) { fileSystem := fs } = after := by
  rwa [Course.runIn_of_granted granted, run_passCourse] at ended

/-- No call is refused where there is nothing to refuse one. -/
theorem Pass.not_meetsRefusal :
    ¬ (passCourse source twin options policy).MeetsRefusal { fileSystem := fs }
      fun _ _ => none :=
  fun ⟨_, _, _, refused⟩ => refused rfl

/-- A pass none of whose calls is refused runs as it does by itself. -/
theorem deriveIn_of_granted
    (granted : ¬ (Pass.passCourse source twin options policy).MeetsRefusal { fileSystem := fs }
      refuses) :
    deriveIn { refuses } fs source twin options policy =
      deriveWith fs source twin options policy := by
  rw [deriveIn, ← Pass.run_of_granted granted rfl]
  rfl

/-- A pass one of whose calls is refused ends in an error. -/
theorem exists_error_of_refused
    (refused : (Pass.passCourse source twin options policy).MeetsRefusal { fileSystem := fs }
      refuses) :
    ∃ error, (deriveIn { refuses } fs source twin options policy).result = .error error := by
  obtain ⟨request, reason, after, ended, _⟩ :=
    Course.runIn_of_refused (Course.withstands_trivial _ _) refused
  exact ⟨request.raise reason, by rw [deriveIn, ended]⟩

/-- Without surroundings a pass runs by itself. -/
theorem deriveIn_plain (fs : FileSystem) (source twin : Path) (options : Options)
    (policy : Policy) :
    deriveIn {} fs source twin options policy = deriveWith fs source twin options policy :=
  deriveIn_of_granted Pass.not_meetsRefusal

end TwinTree
