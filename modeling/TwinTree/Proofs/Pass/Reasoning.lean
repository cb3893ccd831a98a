import TwinTree.Pass.Run

/-!
# Reasoning about passes

`Meets` says of an action what holds when it ends well and what holds when it ends in an error,
since an error keeps what was done before it. Each way of putting actions together has one rule.
-/
namespace TwinTree.Pass

variable {α β : Type} {action : Pass α} {next : α → Pass β} {state : State}
  {post weaker : α → State → Prop} {goal : β → State → Prop} {failed : State → Prop}

/-- From a state, an action ends with a result as in `post`, or with an error as in `failed`. -/
def Meets (action : Pass α) (state : State) (post : α → State → Prop) (failed : State → Prop) :
    Prop :=
  match EStateM.run action state with
  | .ok value after => post value after
  | .error _ after => failed after

theorem run_bind (action : Pass α) (next : α → Pass β) (state : State) :
    EStateM.run (action >>= next) state = match EStateM.run action state with
      | .ok value after => EStateM.run (next value) after
      | .error error after => .error error after := by
  simp only [EStateM.run, bind, EStateM.bind]
  cases action state <;> rfl

theorem Meets.bind (first : Meets action state post failed)
    (second : ∀ value after, post value after → Meets (next value) after goal failed) :
    Meets (action >>= next) state goal failed := by
  unfold Meets at first ⊢
  rw [run_bind]
  split at first
  next value after _ => exact second value after first
  next error after _ => exact first

theorem Meets.mono {weakerFailed : State → Prop} (meets : Meets action state post failed)
    (onSuccess : ∀ value after, post value after → weaker value after)
    (onError : ∀ after, failed after → weakerFailed after) :
    Meets action state weaker weakerFailed := by
  unfold Meets at meets ⊢
  split at meets
  next value after _ => exact onSuccess value after meets
  next error after _ => exact onError after meets

/-- What two actions in a row have done is related as each of them relates the states before and
after it, where the relation is transitive. -/
theorem Meets.bind_trans {Related : State → State → Prop}
    (first : Meets action state (fun _ after => Related state after) (Related state))
    (second : ∀ value middle, Related state middle →
      Meets (next value) middle (fun _ after => Related middle after) (Related middle))
    (trans : ∀ {before middle after : State}, Related before middle → Related middle after →
      Related before after) :
    Meets (action >>= next) state (fun _ after => Related state after) (Related state) := by
  refine first.bind fun value middle related => ?_
  exact (second value middle related).mono (fun _ _ => trans related) fun _ => trans related

/-- Nothing has to be known of errors. -/
theorem Meets.forget (meets : Meets action state post failed) :
    Meets action state post fun _ => True :=
  meets.mono (fun _ _ => id) fun _ _ => trivial

theorem meets_trivial : Meets action state (fun _ _ => True) fun _ => True := by
  unfold Meets
  split <;> trivial

theorem Meets.and {other : α → State → Prop} {failed' : State → Prop}
    (first : Meets action state post failed) (second : Meets action state other failed') :
    Meets action state (fun value after => post value after ∧ other value after)
      fun after => failed after ∧ failed' after := by
  unfold Meets at first second ⊢
  -- The action runs once, so both statements are about one end.
  split at first <;> simp_all

theorem meets_of_run {value : α} {after : State}
    (ended : EStateM.run action state = .ok value after) (holds : post value after) :
    Meets action state post failed := by
  unfold Meets
  rwa [ended]

theorem Meets.of_run {value : α} {after : State} (meets : Meets action state post failed)
    (ended : EStateM.run action state = .ok value after) : post value after := by
  unfold Meets at meets
  rwa [ended] at meets

theorem Meets.of_run_error {error : Error} {after : State}
    (meets : Meets action state post failed)
    (ended : EStateM.run action state = .error error after) : failed after := by
  unfold Meets at meets
  rwa [ended] at meets

/-- What ends well is not caught; what ends in an error goes on with the handler, in the state that
the error has left. -/
theorem run_tryCatch (action : Pass α) (handler : Error → Pass α) (state : State) :
    EStateM.run (MonadExcept.tryCatch action handler) state = match EStateM.run action state with
      | .ok value after => .ok value after
      | .error error after => EStateM.run (handler error) after := by
  change EStateM.tryCatch action handler state = _
  delta EStateM.tryCatch EStateM.run
  dsimp only
  cases action state <;> rfl

theorem run_tryCatch_of_ok {handler : Error → Pass α} {value : α}
    {after : State} (ended : EStateM.run action state = .ok value after) :
    EStateM.run (MonadExcept.tryCatch action handler) state = .ok value after := by
  rw [run_tryCatch, ended]

theorem run_tryCatch_of_error {handler : Error → Pass α}
    {error : Error} {after : State} (ended : EStateM.run action state = .error error after) :
    EStateM.run (MonadExcept.tryCatch action handler) state =
      EStateM.run (handler error) after := by
  rw [run_tryCatch, ended]

theorem Meets.tryCatch {handler : Error → Pass α} {raised : State → Prop}
    (meets : Meets action state post raised)
    (handled : ∀ error after, raised after → Meets (handler error) after post failed) :
    Meets (MonadExcept.tryCatch action handler) state post failed := by
  unfold Meets at meets ⊢
  rw [run_tryCatch]
  split at meets
  next value after _ => exact meets
  next error after _ => exact handled error after meets

theorem meets_pure {value : α} (holds : post value state) :
    Meets (pure value) state post failed := holds

theorem meets_throw {error : Error} (holds : failed state) :
    Meets (throw error : Pass α) state post failed := holds

theorem meets_modify {change : State → State} {post : Unit → State → Prop}
    (holds : post () (change state)) : Meets (modify change) state post failed := holds

/-! ### Actions in front of others -/

theorem meets_modify_bind {change : State → State} {next : Unit → Pass β}
    (onward : Meets (next ()) (change state) goal failed) :
    Meets (modify change >>= next) state goal failed := onward

theorem meets_fileSystem_bind {next : FileSystem → Pass β}
    (onward : Meets (next state.fileSystem) state goal failed) :
    Meets (fileSystem >>= next) state goal failed := onward

theorem meets_ask {question : FileSystem → Except Failure α} {error : String → Error}
    (answered : ∀ answer, question state.fileSystem = .ok answer → post answer state)
    (refused : failed state) : Meets (ask question error) state post failed := by
  unfold ask
  refine meets_fileSystem_bind ?_
  cases found : question state.fileSystem with
  | ok answer => exact answered answer found
  | error failure => exact refused

theorem meets_ask_bind {question : FileSystem → Except Failure α} {error : String → Error}
    (answered : ∀ answer, question state.fileSystem = .ok answer →
      Meets (next answer) state goal failed)
    (refused : failed state) : Meets (ask question error >>= next) state goal failed := by
  have asked : Meets (ask question error) state
      (fun answer after => Meets (next answer) after goal failed) failed :=
    meets_ask answered refused
  exact asked.bind fun _ _ => id

theorem meets_change_bind {access : FileSystem → Except Failure FileSystem}
    {error : String → Error} {next : Unit → Pass β}
    (changed : ∀ made, access state.fileSystem = .ok made →
      Meets (next ()) { state with fileSystem := made } goal failed)
    (refused : failed state) : Meets (change access error >>= next) state goal failed := by
  unfold change
  rw [bind_assoc]
  exact meets_ask_bind (fun made found => changed made found) refused

theorem meets_change {access : FileSystem → Except Failure FileSystem} {error : String → Error}
    {post : Unit → State → Prop}
    (changed : ∀ made, access state.fileSystem = .ok made →
      post () { state with fileSystem := made })
    (refused : failed state) : Meets (change access error) state post failed :=
  meets_ask_bind (fun made found => meets_modify (changed made found)) refused

/-! ### Loops -/

/-- What holds of the items that are done, the value so far and the state is carried through a
loop. -/
theorem meets_foldlM {items : List β} {body : α → β → Pass α} {start : α}
    {invariant : List β → α → State → Prop} (holds : invariant [] start state)
    (round : ∀ done item behind, items = done ++ item :: behind → ∀ value state,
      invariant done value state →
        Meets (body value item) state (invariant (done ++ [item])) failed) :
    Meets (items.foldlM body start) state (invariant items) failed := by
  have onward : ∀ behind done value state, items = done ++ behind → invariant done value state →
      Meets (behind.foldlM body value) state (invariant items) failed := by
    intro behind
    induction behind with
    | nil =>
      intro done value state split holds
      rw [List.append_nil] at split
      exact meets_pure (split ▸ holds)
    | cons item rest ih =>
      intro done value state split holds
      rw [List.foldlM_cons]
      refine (round done item rest split value state holds).bind fun next after kept => ?_
      exact ih (done ++ [item]) next after (by simp [split]) kept
  exact onward items [] start state rfl holds

theorem forM_eq_foldlM (items : List β) (body : β → Pass PUnit) :
    items.forM body = items.foldlM (fun _ item => body item) () := by
  induction items with
  | nil => rfl
  | cons item rest ih =>
    rw [List.foldlM_cons]
    change (body item >>= fun _ => rest.forM body) = _
    rw [ih]

theorem forM_map {γ : Type} (items : List γ) (view : γ → β) (body : β → Pass PUnit) :
    (items.map view).forM body = items.forM fun item => body (view item) := by
  rw [forM_eq_foldlM, forM_eq_foldlM, List.foldlM_map]

/-- A loop may carry more along than what is shown of it, where each round shows the same. -/
theorem foldlM_eq_of_round {γ : Type} {items : List γ} {body : α → γ → Pass α}
    {body' : β → γ → Pass β} (shown : β → α)
    (round : ∀ value item, body (shown value) item = (do return shown (← body' value item)))
    (value : β) :
    items.foldlM body (shown value) = (do return shown (← items.foldlM body' value)) := by
  induction items generalizing value with
  | nil => rfl
  | cons item rest ih =>
    rw [List.foldlM_cons, List.foldlM_cons, round]
    simp only [bind_assoc, pure_bind, ih]

/-- A loop without a value. -/
theorem meets_forM {items : List β} {body : β → Pass PUnit} {invariant : List β → State → Prop}
    (holds : invariant [] state)
    (round : ∀ done item behind, items = done ++ item :: behind → ∀ state,
      invariant done state → Meets (body item) state (fun _ => invariant (done ++ [item])) failed) :
    Meets (items.forM body) state (fun _ => invariant items) failed := by
  rw [forM_eq_foldlM]
  exact meets_foldlM holds fun done item behind split _ state => round done item behind split state

/-- A loop whose rounds all keep the same. -/
theorem meets_forM_of_mem {items : List β} {body : β → Pass PUnit} {invariant : State → Prop}
    (holds : invariant state)
    (round : ∀ item ∈ items, ∀ state, invariant state →
      Meets (body item) state (fun _ => invariant) failed) :
    Meets (items.forM body) state (fun _ => invariant) failed := by
  let carried : List β → State → Prop := fun _ => invariant
  have kept : Meets (items.forM body) state (fun _ => carried items) failed :=
    meets_forM holds fun done item behind split => round item (by simp [split])
  exact kept

end TwinTree.Pass
