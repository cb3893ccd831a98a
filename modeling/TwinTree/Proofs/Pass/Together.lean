import TwinTree.Proofs.Pass.Beside

/-!
# Two actions that end alike

Actions side by side are together when they end with the same value or with the same error. That is
kept by every way of putting actions together.
-/
namespace TwinTree.Pass

open FileSystem

variable {α β γ : Type} {action action' : Pass α} {next next' : α → Pass β}
  {state state' : State} {post weaker : α → State → State → Prop}
  {goal : β → State → State → Prop} {failed weakerFailed : State → State → Prop}

/-- Both actions end with one value, in states as in `post`, or with one error, in states as in
`failed`. -/
def Together (action action' : Pass α) (state state' : State) (post : α → State → State → Prop)
    (failed : State → State → Prop) : Prop :=
  Beside action action' state state'
    (fun value value' after after' => value' = value ∧ post value after after')
    fun error error' after after' => error' = error ∧ failed after after'

/-- Actions together are side by side. -/
theorem Together.beside {goal : α → α → State → State → Prop}
    {spoilt : Error → Error → State → State → Prop}
    (together : Together action action' state state' post failed)
    (onSuccess : ∀ value after after', post value after after' → goal value value after after')
    (onError : ∀ error after after', failed after after' → spoilt error error after after') :
    Beside action action' state state' goal spoilt := by
  refine Beside.mono together ?_ ?_
  · rintro value _ after after' ⟨rfl, related⟩
    exact onSuccess _ after after' related
  · rintro error _ after after' ⟨rfl, related⟩
    exact onError _ after after' related

theorem Together.bind (first : Together action action' state state' post failed)
    (second : ∀ value after after', post value after after' →
      Together (next value) (next' value) after after' goal failed) :
    Together (action >>= next) (action' >>= next') state state' goal failed := by
  refine Beside.bind first ?_
  rintro value _ after after' ⟨rfl, related⟩
  exact second _ after after' related

theorem Together.mono (together : Together action action' state state' post failed)
    (onSuccess : ∀ value after after', post value after after' → weaker value after after')
    (onError : ∀ after after', failed after after' → weakerFailed after after') :
    Together action action' state state' weaker weakerFailed :=
  Beside.mono together (fun _ _ _ _ => And.imp_right (onSuccess _ _ _)) fun _ _ _ _ =>
    And.imp_right (onError _ _)

/-- What is known of each action by itself may be used. -/
theorem Together.and {known known' : α → State → Prop} {spoilt spoilt' : State → Prop}
    (meets : Meets action state known spoilt) (meets' : Meets action' state' known' spoilt')
    (together : Together action action' state state' post failed) :
    Together action action' state state'
      (fun value after after' => known value after ∧ known' value after' ∧ post value after after')
      (fun after after' => spoilt after ∧ spoilt' after' ∧ failed after after') := by
  refine (Beside.and meets meets' together).mono ?_ ?_
  · rintro value _ after after' ⟨holds, holds', rfl, related⟩
    exact ⟨rfl, holds, holds', related⟩
  · rintro error _ after after' ⟨holds, holds', rfl, related⟩
    exact ⟨rfl, holds, holds', related⟩

/-- What is known of the actions where they end well may be used. -/
theorem Together.knowing {known known' : α → State → Prop}
    (meets : Meets action state known fun _ => True)
    (meets' : Meets action' state' known' fun _ => True)
    (together : Together action action' state state' post failed) :
    Together action action' state state'
      (fun value after after' => known value after ∧ known' value after' ∧ post value after after')
      failed :=
  (Together.and meets meets' together).mono (fun _ _ _ => id) fun _ _ ended => ended.2.2

/-- Errors that are caught alike are handled alike. -/
theorem Together.tryCatch {handler handler' : Error → Pass α} {raised : State → State → Prop}
    (together : Together action action' state state' post raised)
    (handled : ∀ error after after', raised after after' →
      Together (handler error) (handler' error) after after' post failed) :
    Together (MonadExcept.tryCatch action handler) (MonadExcept.tryCatch action' handler') state
      state' post failed := by
  refine Beside.tryCatch together ?_
  rintro error _ after after' ⟨rfl, related⟩
  exact handled _ after after' related

/-- One action does the same from one state. -/
theorem together_self {post : α → State → Prop} {failed : State → Prop}
    (meets : Meets action state post failed) :
    Together action action state state (fun value after after' => after' = after ∧ post value after)
      (fun after after' => after' = after ∧ failed after) := by
  unfold Meets at meets
  unfold Together Beside
  cases ended : EStateM.run action state with
  | ok value after =>
    rw [ended] at meets
    exact ⟨rfl, rfl, meets⟩
  | error error after =>
    rw [ended] at meets
    exact ⟨rfl, rfl, meets⟩

theorem together_pure {value : α} (related : post value state state') :
    Together (pure value) (pure value) state state' post failed := ⟨rfl, related⟩

theorem together_throw {error : Error} (related : failed state state') :
    Together (throw error : Pass α) (throw error) state state' post failed := ⟨rfl, related⟩

theorem together_modify {change change' : State → State} {post : Unit → State → State → Prop}
    (related : post () (change state) (change' state')) :
    Together (modify change) (modify change') state state' post failed := ⟨rfl, related⟩

/-! ### Actions in front of others -/

theorem together_modify_bind {change change' : State → State} {next next' : Unit → Pass β}
    (onward : Together (next ()) (next' ()) (change state) (change' state') goal failed) :
    Together (modify change >>= next) (modify change' >>= next') state state' goal failed := onward

theorem together_fileSystem_bind {next next' : FileSystem → Pass β}
    (onward : Together (next state.fileSystem) (next' state'.fileSystem) state state' goal failed) :
    Together (fileSystem >>= next) (fileSystem >>= next') state state' goal failed := onward

theorem together_isMaterialized_bind {path : Path} {next next' : Bool → Pass β}
    (same : state'.materialized = state.materialized)
    (onward : ∀ known, Together (next known) (next' known) state state' goal failed) :
    Together (isMaterialized path >>= next) (isMaterialized path >>= next') state state' goal
      failed := by
  have together : Together
      (next (state.materialized.any fun known => decide (known.Same path)))
      (next' (state'.materialized.any fun known => decide (known.Same path)))
      state state' goal failed := by
    rw [same]
    exact onward _
  exact together

/-- Two questions whose answers look the same, or which fail for the same reason. -/
theorem together_ask_bind {question question' : FileSystem → Except Failure α} {view : α → γ}
    {error : String → Error}
    (alike : (question' state'.fileSystem).map view = (question state.fileSystem).map view)
    (answered : ∀ answer answer', question state.fileSystem = .ok answer →
      question' state'.fileSystem = .ok answer' → view answer' = view answer →
      Together (next answer) (next' answer') state state' goal failed)
    (refused : failed state state') :
    Together (ask question error >>= next) (ask question' error >>= next') state state' goal
      failed :=
  beside_ask_bind (.of_map_eq alike)
    (fun answer answer' ⟨found, found', same⟩ => answered answer answer' found found' same)
    fun _ => ⟨rfl, refused⟩

/-- Two changes that go alongside each other. -/
theorem together_change {Files : FileSystem → FileSystem → Prop}
    {access access' : FileSystem → Except Failure FileSystem} {error : String → Error}
    {post : Unit → State → State → Prop}
    (alongside : Alongside Files (access state.fileSystem) (access' state'.fileSystem))
    (changed : ∀ made made', Files made made' →
      post () { state with fileSystem := made } { state' with fileSystem := made' })
    (refused : failed state state') :
    Together (change access error) (change access' error) state state' post failed :=
  beside_change alongside (fun made made' files => ⟨rfl, changed made made' files⟩)
    fun _ => ⟨rfl, refused⟩

theorem together_requireSafe_bind {task task' : Task} {path : Path} {next next' : Unit → Pass β}
    (alike : state'.fileSystem.checkSafe path task'.twin =
      state.fileSystem.checkSafe path task.twin)
    (onward : state.fileSystem.checkSafe path task.twin = .ok () →
      Together (next ()) (next' ()) state state' goal failed)
    (refused : failed state state') :
    Together (requireSafe task path >>= next) (requireSafe task' path >>= next') state state' goal
      failed :=
  beside_requireSafe_bind alike onward fun _ => ⟨rfl, refused⟩

/-! ### Loops -/

/-- Two loops over the same items, each round of which keeps the same relation. -/
theorem together_forM {items : List α} {body body' : α → Pass PUnit}
    {kept : State → State → Prop} (related : kept state state')
    (round : ∀ item ∈ items, ∀ state state', kept state state' →
      Together (body item) (body' item) state state' (fun _ => kept) failed) :
    Together (items.forM body) (items.forM body') state state' (fun _ => kept) failed := by
  refine (beside_forM related fun item member state state' related => ?_).mono
    (fun _ _ _ _ => .intro rfl) fun _ _ _ _ => id
  exact (round item member state state' related).beside (fun _ _ _ => id) fun _ _ _ => .intro rfl

end TwinTree.Pass
