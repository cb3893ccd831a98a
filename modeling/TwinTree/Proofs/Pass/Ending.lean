import TwinTree.Proofs.Pass.Following
import TwinTree.Proofs.Pass.Soundness

/-!
# How an action ends

`Ends` says of an action what holds when it ends well, and which error it ends in otherwise. Where
no error is possible, the rules ask why: a question has to be answered, a change has to be made, a
check has to be passed.
-/
namespace TwinTree.Pass

variable {α β : Type} {action : Pass α} {next : α → Pass β} {state : State}
  {post weaker : α → State → Prop} {goal : β → State → Prop} {raised other : Error → Prop}

/-- From a state, an action ends with a result as in `post`, or in an error as in `raised`. -/
def Ends (action : Pass α) (state : State) (post : α → State → Prop) (raised : Error → Prop) :
    Prop :=
  match EStateM.run action state with
  | .ok value after => post value after
  | .error error _ => raised error

theorem Ends.bind (first : Ends action state post raised)
    (second : ∀ value after, post value after → Ends (next value) after goal raised) :
    Ends (action >>= next) state goal raised := by
  unfold Ends at first ⊢
  rw [run_bind]
  cases ended : EStateM.run action state with
  | ok value after =>
    rw [ended] at first
    exact second value after first
  | error error after =>
    rw [ended] at first
    exact first

theorem Ends.mono (ends : Ends action state post raised)
    (onSuccess : ∀ value after, post value after → weaker value after)
    (onError : ∀ error, raised error → other error) : Ends action state weaker other := by
  unfold Ends at ends ⊢
  split at ends
  next value after _ => exact onSuccess value after ends
  next error _ _ => exact onError error ends

/-- What is known of the action where it ends well may be used. -/
theorem Ends.knowing {known : α → State → Prop} (meets : Meets action state known fun _ => True)
    (ends : Ends action state post raised) :
    Ends action state (fun value after => known value after ∧ post value after) raised := by
  unfold Ends at ends ⊢
  split at ends
  next ended => exact ⟨meets.of_run ended, ends⟩
  next => exact ends

/-- An action that never fails. -/
theorem Meets.ends (meets : Meets action state post fun _ => False) :
    Ends action state post raised := by
  unfold Meets at meets
  unfold Ends
  cases ended : EStateM.run action state with
  | ok value after =>
    rw [ended] at meets
    exact meets
  | error error after =>
    rw [ended] at meets
    exact meets.elim

/-- An action that never fails follows whatever it goes along with. -/
theorem Follows.of_ends {leader : Pass β} {ahead : State} {known : β → State → Prop}
    {related : β → State → α → State → Prop} (meets : Meets leader ahead known fun _ => True)
    (ends : ∀ value after, known value after →
      Ends action state (related value after) fun _ => False) :
    Follows leader action ahead state related := by
  refine follows_of_run meets fun value after holds => ?_
  have ended := ends value after holds
  unfold Ends at ended
  split at ended
  next value' after' run => exact ⟨value', after', run, ended⟩
  next => exact ended.elim

theorem ends_of_run {value : α} {after : State}
    (ended : EStateM.run action state = .ok value after) (holds : post value after) :
    Ends action state post raised := by
  unfold Ends
  rw [ended]
  exact holds

theorem ends_pure {value : α} (holds : post value state) :
    Ends (pure value) state post raised := holds

theorem ends_modify {change : State → State} {post : Unit → State → Prop}
    (holds : post () (change state)) : Ends (modify change) state post raised := holds

/-! ### Actions in front of others -/

theorem ends_modify_bind {change : State → State} {next : Unit → Pass β}
    (onward : Ends (next ()) (change state) goal raised) :
    Ends (modify change >>= next) state goal raised := onward

theorem ends_fileSystem_bind {next : FileSystem → Pass β}
    (onward : Ends (next state.fileSystem) state goal raised) :
    Ends (fileSystem >>= next) state goal raised := onward

theorem ends_isMaterialized_bind {path : Path} {next : Bool → Pass β}
    (onward : ∀ known, known = (state.materialized.any fun other => decide (other.Same path)) →
      Ends (next known) state goal raised) :
    Ends (isMaterialized path >>= next) state goal raised := onward _ rfl

theorem ends_ask_bind {question : FileSystem → Except Failure α} {error : String → Error}
    (answered : ∀ answer, question state.fileSystem = .ok answer →
      Ends (next answer) state goal raised)
    (refused : ∀ failure, question state.fileSystem = .error failure →
      raised (error failure.message)) :
    Ends (ask question error >>= next) state goal raised := by
  unfold ask
  rw [bind_assoc]
  apply ends_fileSystem_bind
  cases found : question state.fileSystem with
  | ok answer => exact answered answer found
  | error failure => exact refused failure found

theorem ends_change {access : FileSystem → Except Failure FileSystem} {made : FileSystem}
    {error : String → Error} (changed : access state.fileSystem = .ok made) :
    Ends (change access error) state
      (fun _ after => after = { state with fileSystem := made }) raised :=
  ends_of_run (run_change changed) rfl

theorem ends_requireSafe_bind {task : Task} {path : Path} {next : Unit → Pass β}
    (safe : state.fileSystem.checkSafe path task.twin = .ok ())
    (onward : Ends (next ()) state goal raised) :
    Ends (requireSafe task path >>= next) state goal raised := by
  unfold requireSafe
  rw [bind_assoc]
  apply ends_fileSystem_bind
  rw [safe]
  exact onward

theorem ends_ensureDirectory {path : Path} {made : FileSystem}
    (created : state.fileSystem.createDirectories path = (made, .ok ())) :
    Ends (ensureDirectory path) state (fun _ _ => True) raised := by
  unfold ensureDirectory
  apply ends_isMaterialized_bind
  rintro known -
  split
  next => exact ends_pure trivial
  next =>
    apply ends_fileSystem_bind
    rw [created]
    exact ends_modify_bind (ends_modify_bind (ends_pure trivial))

/-! ### Loops -/

/-- What holds of the items that are done and the state is carried through a loop, which ends in the
first error. -/
theorem ends_forM {items : List β} {body : β → Pass PUnit} {invariant : List β → State → Prop}
    (holds : invariant [] state)
    (round : ∀ done item behind, items = done ++ item :: behind → ∀ state,
      invariant done state → Ends (body item) state (fun _ => invariant (done ++ [item])) raised) :
    Ends (items.forM body) state (fun _ => invariant items) raised := by
  have onward : ∀ behind done state, items = done ++ behind → invariant done state →
      Ends (behind.forM body) state (fun _ => invariant items) raised := by
    intro behind
    induction behind with
    | nil =>
      intro done state split holds
      rw [List.append_nil] at split
      exact ends_pure (split ▸ holds)
    | cons item rest ih =>
      intro done state split holds
      refine (round done item rest split state holds).bind fun _ after kept => ?_
      exact ih (done ++ [item]) after (by simp [split]) kept
  exact onward items [] state rfl holds

end TwinTree.Pass
