import TwinTree.Proofs.Pass.Composition

/-!
# Which errors are raised

`Raises` says of an action which errors it may end in, wherever it starts. The errors that refuse
the arguments of a pass are raised before anything is changed: no step of preparing the root of the
twin or of walking the source raises one (`composes_raises`).
-/
namespace TwinTree.Pass

variable {α β : Type} {allowed : Error → Prop} {action : Pass α} {next : α → Pass β}

/-- Whatever state an action starts in, the errors that it ends in are allowed. -/
def Raises (allowed : Error → Prop) (action : Pass α) : Prop :=
  ∀ state error after, EStateM.run action state = .error error after → allowed error

theorem run_bind_eq_error {state after : State} {error : Error}
    (ended : EStateM.run (action >>= next) state = .error error after) :
    EStateM.run action state = .error error after ∨
      ∃ value middle, EStateM.run action state = .ok value middle ∧
        EStateM.run (next value) middle = .error error after := by
  rw [run_bind] at ended
  split at ended
  next value middle begun => exact .inr ⟨value, middle, begun, ended⟩
  next =>
    cases ended
    exact .inl ‹_›

namespace Raises

theorem bind (first : Raises allowed action) (second : ∀ value, Raises allowed (next value)) :
    Raises allowed (action >>= next) := by
  intro state error after ended
  rcases run_bind_eq_error ended with early | ⟨value, middle, _, late⟩
  · exact first state error after early
  · exact second value middle error after late

theorem throw {error : Error} (granted : allowed error) :
    Raises allowed (MonadExcept.throw error : Pass α) := by
  rintro _ _ _ ⟨⟩
  exact granted

theorem tryCatch {handler : Error → Pass α} (raised : Raises allowed action)
    (handled : ∀ error, allowed error → Raises allowed (handler error)) :
    Raises allowed (MonadExcept.tryCatch action handler) := by
  intro state error after ended
  cases run : EStateM.run action state with
  | ok value middle =>
    rw [run_tryCatch_of_ok run] at ended
    cases ended
  | error early middle =>
    rw [run_tryCatch_of_error run] at ended
    exact handled early (raised _ _ _ run) _ _ _ ended

end Raises

theorem composes_raises (dryRun : Bool) : Composes dryRun (Raises (¬ ·.IsRefusal)) where
  pure _ := nofun
  bind := Raises.bind
  throw granted := .throw granted
  look _ := nofun
  routine _ := nofun
  directory := nofun
  copied _ := nofun
  planned _ := nofun
  know _ := nofun
  change _ _ := nofun
  reword granted raised := raised.tryCatch fun error refused => .throw (granted error refused)

end TwinTree.Pass
