import TwinTree.Proofs.Pass.Composition

/-!
# What a pass only adds to

Whether it succeeds or not, a pass takes back nothing of what it has noted and of the directories
that it knows, and a dry run leaves every file as it is: so does each of its steps
(`composes_grows`).
-/
namespace TwinTree

/-- How a state may have grown. -/
structure Grown (dryRun : Bool) (state after : State) : Prop where
  files : dryRun = true → after.fileSystem = state.fileSystem
  known : state.materialized <+: after.materialized
  records : state.journal.report.records <+: after.journal.report.records
  warnings : state.journal.report.warnings <+: after.journal.report.warnings
  log : state.journal.log <+: after.journal.log

namespace Grown

variable {dryRun : Bool} {state middle after : State}

theorem refl (state : State) : Grown dryRun state state :=
  ⟨fun _ => rfl, List.prefix_rfl, List.prefix_rfl, List.prefix_rfl, List.prefix_rfl⟩

theorem trans (first : Grown dryRun state middle) (second : Grown dryRun middle after) :
    Grown dryRun state after where
  files dry := (second.files dry).trans (first.files dry)
  known := first.known.trans second.known
  records := first.records.trans second.records
  warnings := first.warnings.trans second.warnings
  log := first.log.trans second.log

theorem routine {change : Journal → Journal} (routine : Journal.Routine change) (state : State) :
    Grown dryRun state { state with journal := change state.journal } := by
  cases routine with
  | scanned | matched | skipped => exact { refl state with }
  | note => exact { refl state with log := List.prefix_append .. }
  | warn =>
    exact { refl state with
      warnings := List.prefix_append ..
      log := List.prefix_append .. }

end Grown

namespace Pass

variable {α β : Type} {dryRun : Bool} {action : Pass α} {next : α → Pass β}

/-- However an action ends, the state has grown by then. -/
def Grows (dryRun : Bool) (action : Pass α) : Prop :=
  ∀ state, Meets action state (fun _ after => Grown dryRun state after) (Grown dryRun state)

namespace Grows

theorem bind (first : Grows dryRun action) (second : ∀ value, Grows dryRun (next value)) :
    Grows dryRun (action >>= next) := fun state =>
  (first state).bind_trans (fun value middle _ => second value middle) .trans

/-- What has grown may be added to what is known of a success. -/
theorem meets {state : State} {post : α → State → Prop} (grows : Grows dryRun action)
    (meets : Meets action state post fun _ => True) :
    Meets action state (fun value after => post value after ∧ Grown dryRun state after)
      fun _ => True :=
  (meets.and (grows state)).mono (fun _ _ => id) fun _ _ => trivial

theorem modify {change : State → State} (grown : ∀ state, Grown dryRun state (change state)) :
    Grows dryRun (modify change) := fun state => meets_modify (grown state)

end Grows

theorem composes_grows (dryRun : Bool) : Composes dryRun (Grows dryRun) where
  pure _ state := meets_pure (.refl state)
  bind := Grows.bind
  throw _ state := meets_throw (.refl state)
  look _ := Grown.refl
  routine routine := .modify (.routine routine)
  directory := .modify fun state => { Grown.refl state with }
  copied _ := .modify fun state => { Grown.refl state with records := List.prefix_append .. }
  planned _ := .modify fun state => { Grown.refl state with records := List.prefix_append .. }
  know _ := .modify fun state => { Grown.refl state with known := List.prefix_append .. }
  change real _ := .modify fun state =>
    { @Grown.refl dryRun state with
      files := fun dry => absurd (real.symm.trans dry) nofun }
  reword _ grows state := (grows state).tryCatch fun _ _ grown => meets_throw grown

variable {source twin : Path} {options : Options} {policy : Policy}

theorem checkArguments_grows : Grows dryRun (checkArguments source twin) := by
  intro state
  refine (checkArguments_meets (.refl state)).mono ?_ fun _ => id
  rintro _ _ ⟨rfl, _⟩
  exact .refl _

/-- A whole pass takes nothing back, however it ends. -/
theorem run_grows : Grows options.dryRun (run source twin options policy) := by
  unfold run
  refine checkArguments_grows.bind fun _ => ?_
  cases prepared : prepare source twin options policy with
  | error reason => exact fun state => meets_throw (.refl state)
  | ok task =>
    obtain ⟨_, _, options_eq, _⟩ := eq_of_prepare prepared
    have composes : Composes task.options.dryRun (Grows task.options.dryRun) := composes_grows _
    rw [← options_eq]
    refine composes.bind composes.covers.prepareRoot fun _ => ?_
    exact composes.bind (composes.covers.walk _) fun _ => composes.look (·.journal.report)

end Pass

end TwinTree
