import TwinTree.Proofs.FileSystem.Likeness
import TwinTree.Proofs.Pass.Reasoning

/-!
# Two actions side by side

`Beside` compares two actions, each from a state of its own, also where they end in an error: both
end well or both end with an error, and the two ends are related. There is one rule for each way of
putting actions together. Where a comparison may break down, the rules `Beside.bind_or` and
`beside_forM_or` say what the first action ends with instead.
-/
namespace TwinTree.Pass

open FileSystem

variable {α β γ δ ε : Type} {action : Pass α} {action' : Pass β} {next : α → Pass γ}
  {next' : β → Pass δ} {state state' : State} {post weaker : α → β → State → State → Prop}
  {goal : γ → δ → State → State → Prop} {failed weakerFailed : Error → Error → State → State → Prop}
  {lost : State → Prop}

/-- Both actions end well, with values and in states as in `post`, or with errors as in `failed`. -/
def Beside (action : Pass α) (action' : Pass β) (state state' : State)
    (post : α → β → State → State → Prop) (failed : Error → Error → State → State → Prop) : Prop :=
  match EStateM.run action state, EStateM.run action' state' with
  | .ok value after, .ok value' after' => post value value' after after'
  | .error error after, .error error' after' => failed error error' after after'
  | _, _ => False

namespace Beside

theorem bind (first : Beside action action' state state' post failed)
    (second : ∀ value value' after after', post value value' after after' →
      Beside (next value) (next' value') after after' goal failed) :
    Beside (action >>= next) (action' >>= next') state state' goal failed := by
  unfold Beside at first ⊢
  rw [run_bind, run_bind]
  split at first
  next ended ended' =>
    rw [ended, ended']
    exact second _ _ _ _ first
  next ended ended' =>
    rw [ended, ended']
    exact first
  next => exact first.elim

theorem mono (beside : Beside action action' state state' post failed)
    (onSuccess : ∀ value value' after after', post value value' after after' →
      weaker value value' after after')
    (onError : ∀ error error' after after', failed error error' after after' →
      weakerFailed error error' after after') :
    Beside action action' state state' weaker weakerFailed := by
  unfold Beside at beside ⊢
  split at beside
  next => exact onSuccess _ _ _ _ beside
  next => exact onError _ _ _ _ beside
  next => exact beside

/-- What is known of each action by itself may be used. -/
theorem and {known : α → State → Prop} {known' : β → State → Prop} {spoilt spoilt' : State → Prop}
    (meets : Meets action state known spoilt) (meets' : Meets action' state' known' spoilt')
    (beside : Beside action action' state state' post failed) :
    Beside action action' state state'
      (fun value value' after after' =>
        known value after ∧ known' value' after' ∧ post value value' after after')
      (fun error error' after after' =>
        spoilt after ∧ spoilt' after' ∧ failed error error' after after') := by
  unfold Beside at beside ⊢
  split at beside
  next ended ended' => exact ⟨meets.of_run ended, meets'.of_run ended', beside⟩
  next ended ended' => exact ⟨meets.of_run_error ended, meets'.of_run_error ended', beside⟩
  next => exact beside

/-- What is known of the first action where it ends well may be used. -/
theorem knowing {known : α → State → Prop} (meets : Meets action state known fun _ => True)
    (beside : Beside action action' state state' post failed) :
    Beside action action' state state'
      (fun value value' after after' => known value after ∧ post value value' after after')
      failed :=
  (Beside.and meets meets_trivial beside).mono
    (fun _ _ _ _ ⟨holds, _, related⟩ => ⟨holds, related⟩) fun _ _ _ _ ended => ended.2.2

/-- Errors that are caught are handled side by side. -/
theorem tryCatch {handler : Error → Pass α} {handler' : Error → Pass β}
    {raised : Error → Error → State → State → Prop}
    (beside : Beside action action' state state' post raised)
    (handled : ∀ error error' after after', raised error error' after after' →
      Beside (handler error) (handler' error') after after' post failed) :
    Beside (MonadExcept.tryCatch action handler) (MonadExcept.tryCatch action' handler') state
      state' post failed := by
  unfold Beside at beside
  split at beside
  next ended ended' =>
    unfold Beside
    rwa [run_tryCatch_of_ok ended, run_tryCatch_of_ok ended']
  next ended ended' =>
    have onward := handled _ _ _ _ beside
    unfold Beside at onward ⊢
    rwa [run_tryCatch_of_error ended, run_tryCatch_of_error ended']
  next => exact beside.elim

/-- Actions side by side may stop being so, in a state as in `lost`. -/
theorem bind_or (first : Beside action action' state state' post failed)
    (second : ∀ value value' after after', post value value' after after' →
      Beside (next value) (next' value') after after' goal failed ∨
        Meets (next value) after (fun _ => lost) lost) :
    Beside (action >>= next) (action' >>= next') state state' goal failed ∨
      Meets (action >>= next) state (fun _ => lost) lost := by
  unfold Beside Meets at second ⊢
  unfold Beside at first
  rw [run_bind, run_bind]
  split at first
  next ended ended' =>
    rw [ended, ended']
    exact second _ _ _ _ first
  next ended ended' =>
    rw [ended, ended']
    exact .inl first
  next => exact first.elim

end Beside

theorem beside_pure {value : α} {value' : β} (related : post value value' state state') :
    Beside (pure value) (pure value') state state' post failed := related

theorem beside_throw {error error' : Error} (related : failed error error' state state') :
    Beside (throw error : Pass α) (throw error' : Pass β) state state' post failed := related

theorem beside_modify {change change' : State → State} {post : Unit → Unit → State → State → Prop}
    (related : post () () (change state) (change' state')) :
    Beside (modify change) (modify change') state state' post failed := related

/-! ### Actions in front of others -/

theorem beside_modify_bind {change change' : State → State} {next : Unit → Pass γ}
    {next' : Unit → Pass δ}
    (onward : Beside (next ()) (next' ()) (change state) (change' state') goal failed) :
    Beside (modify change >>= next) (modify change' >>= next') state state' goal failed := onward

theorem beside_fileSystem_bind {next : FileSystem → Pass γ} {next' : FileSystem → Pass δ}
    (onward : Beside (next state.fileSystem) (next' state'.fileSystem) state state' goal failed) :
    Beside (fileSystem >>= next) (fileSystem >>= next') state state' goal failed := onward

/-- Two questions whose answers are related, or which fail for the same reason. -/
theorem beside_ask_bind {question : FileSystem → Except Failure α}
    {question' : FileSystem → Except Failure β} {related : α → β → Prop}
    {error error' : String → Error}
    (alongside : Alongside related (question state.fileSystem) (question' state'.fileSystem))
    (answered : ∀ answer answer', related answer answer' →
      Beside (next answer) (next' answer') state state' goal failed)
    (refused : ∀ reason, failed (error reason) (error' reason) state state') :
    Beside (ask question error >>= next) (ask question' error' >>= next') state state' goal
      failed := by
  unfold ask
  rw [bind_assoc, bind_assoc]
  apply beside_fileSystem_bind
  generalize question state.fileSystem = result at alongside
  generalize question' state'.fileSystem = result' at alongside
  cases alongside with
  | ok holds => exact answered _ _ holds
  | error => exact beside_throw (refused _)

/-- Two changes that go alongside each other. -/
theorem beside_change {Files : FileSystem → FileSystem → Prop}
    {access access' : FileSystem → Except Failure FileSystem} {error error' : String → Error}
    {post : Unit → Unit → State → State → Prop}
    (alongside : Alongside Files (access state.fileSystem) (access' state'.fileSystem))
    (changed : ∀ made made', Files made made' →
      post () () { state with fileSystem := made } { state' with fileSystem := made' })
    (refused : ∀ reason, failed (error reason) (error' reason) state state') :
    Beside (change access error) (change access' error') state state' post failed :=
  beside_ask_bind alongside (fun made made' files => beside_modify (changed made made' files))
    refused

theorem beside_requireSafe_bind {task task' : Task} {path : Path} {next : Unit → Pass γ}
    {next' : Unit → Pass δ}
    (alike : state'.fileSystem.checkSafe path task'.twin =
      state.fileSystem.checkSafe path task.twin)
    (onward : state.fileSystem.checkSafe path task.twin = .ok () →
      Beside (next ()) (next' ()) state state' goal failed)
    (refused : ∀ reason, failed (.unsafeDestination reason) (.unsafeDestination reason) state
      state') :
    Beside (requireSafe task path >>= next) (requireSafe task' path >>= next') state state' goal
      failed := by
  unfold requireSafe
  rw [bind_assoc, bind_assoc]
  apply beside_fileSystem_bind
  rw [alike]
  cases checked : state.fileSystem.checkSafe path task.twin with
  | ok => exact onward checked
  | error => exact beside_throw (refused _)

/-! ### Loops -/

/-- Two loops over the same items, each round of which keeps the same relation, unless it is lost
for good. -/
theorem beside_forM_or {items : List ε} {body body' : ε → Pass PUnit}
    {kept : State → State → Prop} (related : kept state state')
    (round : ∀ item ∈ items, ∀ state state', kept state state' →
      Beside (body item) (body' item) state state' (fun _ _ => kept) failed ∨
        Meets (body item) state (fun _ => lost) lost)
    (stays : ∀ item ∈ items, ∀ state, lost state → Meets (body item) state (fun _ => lost) lost) :
    Beside (items.forM body) (items.forM body') state state' (fun _ _ => kept) failed ∨
      Meets (items.forM body) state (fun _ => lost) lost := by
  induction items generalizing state state' with
  | nil => exact .inl (beside_pure related)
  | cons item rest ih =>
    rcases round item List.mem_cons_self state state' related with first | first
    · refine first.bind_or fun _ _ _ _ related => ?_
      exact ih related (fun later member => round later (List.mem_cons_of_mem _ member))
        fun later member => stays later (List.mem_cons_of_mem _ member)
    · -- Lost in this round, the relation stays lost in those that are left.
      refine .inr (first.bind fun _ after lost => ?_)
      exact meets_forM_of_mem lost fun later member => stays later (List.mem_cons_of_mem _ member)

/-- Two loops over the same items, each round of which keeps the same relation. -/
theorem beside_forM {items : List ε} {body body' : ε → Pass PUnit}
    {kept : State → State → Prop} (related : kept state state')
    (round : ∀ item ∈ items, ∀ state state', kept state state' →
      Beside (body item) (body' item) state state' (fun _ _ => kept) failed) :
    Beside (items.forM body) (items.forM body') state state' (fun _ _ => kept) failed := by
  induction items generalizing state state' with
  | nil => exact beside_pure related
  | cons item rest ih =>
    have first := round item List.mem_cons_self state state' related
    exact first.bind fun _ _ _ _ related =>
      ih related fun later member => round later (List.mem_cons_of_mem _ member)

end TwinTree.Pass
