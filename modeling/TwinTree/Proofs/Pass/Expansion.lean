import TwinTree.Proofs.FileSystem.Extension
import TwinTree.Proofs.Pass.Composition

/-!
# A pass takes nothing away

Wherever the twin is, a pass only adds to the file system it has begun with, however it ends: so
does each of its steps (`covers_expands`).
-/
namespace TwinTree.Pass

open FileSystem

variable {α β : Type} {action : Pass α} {next : α → Pass β} {state : State}

/-- However an action ends, the file system has been extended by then. -/
def Expands (action : Pass α) : Prop :=
  ∀ state : State, state.fileSystem.Orderly → Meets action state
    (fun _ after => Extends state.fileSystem after.fileSystem)
    fun after => Extends state.fileSystem after.fileSystem

namespace Expands

theorem bind (first : Expands action) (second : ∀ value, Expands (next value)) :
    Expands (action >>= next) := fun state orderly =>
  (first state orderly).bind_trans
    (fun value middle extended => second value middle extended.orderly) .trans

theorem modify {change : State → State}
    (kept : ∀ state, (change state).fileSystem = state.fileSystem) : Expands (modify change) := by
  intro state orderly
  apply meets_modify
  rw [kept]
  exact .refl orderly

theorem change {access : FileSystem → Except Failure FileSystem} {error : String → Error}
    (keeps : ∀ {fs made : FileSystem}, fs.Orderly → access fs = .ok made → Extends fs made) :
    Expands (change access error) :=
  fun _ orderly => meets_change (fun _ made => keeps orderly made) (.refl orderly)

theorem ensureDirectory (path : Path) : Expands (ensureDirectory path) := by
  intro state orderly
  have extended := createDirectories_extends orderly path
  unfold Pass.ensureDirectory
  apply meets_isMaterialized_bind
  split
  next => exact meets_pure (.refl orderly)
  -- What has been made by then stays also where it fails.
  refine meets_fileSystem_bind (meets_modify_bind ?_)
  split
  next => exact meets_throw extended
  next => exact meets_modify_bind (meets_pure extended)

theorem write (source path : Path) (content : List UInt8) :
    Expands (write source path content) := by
  unfold Pass.write
  refine (Expands.change fun orderly => ensureWritable_extends orderly).bind fun _ => ?_
  refine (Expands.change fun orderly => writeFile_extends orderly).bind fun _ => ?_
  exact .change fun orderly => copyMode_extends orderly

end Expands

/-- Every step of a pass extends the file system. -/
theorem covers_expands (dryRun : Bool) : Covers dryRun Expands where
  pure _ _ := meets_pure ∘ .refl
  bind := .bind
  throw _ _ := meets_throw ∘ .refl
  look _ _ := .refl
  routine _ := .modify fun _ => rfl
  directory := .modify fun _ => rfl
  copied _ := .modify fun _ => rfl
  planned _ := .modify fun _ => rfl
  know _ := .modify fun _ => rfl
  makes _ := .ensureDirectory
  writes _ := .write
  reword _ expands state orderly :=
    (expands state orderly).tryCatch fun _ _ extended => meets_throw extended

end TwinTree.Pass
