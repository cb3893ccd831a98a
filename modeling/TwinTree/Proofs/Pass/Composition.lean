import TwinTree.Proofs.Pass.Lockstep

/-!
# What all steps of a pass have in common

A pass is put together from a few small actions: it looks at its state, takes notes, gets to know
directories, and changes files unless it is a dry run. A property of actions that all of these have,
and that is kept where actions are put together, is a property of every step and of the whole walk
(`Composes.walk`). `Notes` is as much of it as the steps need that look and take notes only.
-/
namespace TwinTree

/-- The errors that refuse the arguments of a pass. -/
inductive Error.IsRefusal : Error → Prop where
  | source (path : Path) : IsRefusal (.sourceNotDirectory path)
  | overlap (source destination : Path) : IsRefusal (.overlap source destination)
  | pattern (reason : String) : IsRefusal (.invalidPattern reason)

/-- What a pass makes of an error that is raised while it makes the root of the twin. -/
def Error.atRoot : Error → Error
  | .directoryNotCreated path reason => .destinationNotReady path reason
  | error => error

theorem Error.not_isRefusal_atRoot {error : Error} (granted : ¬ error.IsRefusal) :
    ¬ error.atRoot.IsRefusal := by
  cases error <;> first | exact granted | exact nofun

namespace Pass

/-- A property of actions that looking at the state, taking notes and failing in the walk have. -/
structure Notes (Has : ∀ {α : Type}, Pass α → Prop) : Prop where
  pure : ∀ {α : Type} (value : α), Has (Pure.pure value)
  bind : ∀ {α β : Type} {action : Pass α} {next : α → Pass β}, Has action →
    (∀ value, Has (next value)) → Has (action >>= next)
  throw : ∀ {α : Type} {error : Error}, ¬ error.IsRefusal →
    Has (MonadExcept.throw error : Pass α)
  look : ∀ {α : Type} (view : State → α), Has (do return view (← get))
  routine : ∀ {change : Journal → Journal}, Journal.Routine change →
    Has (modify fun state => { state with journal := change state.journal })

/-- A property that also recording files, getting to know directories and the two steps that change
files have, those in real passes only. -/
structure Covers (dryRun : Bool) (Has : ∀ {α : Type}, Pass α → Prop) : Prop
    extends Notes Has where
  directory : Has (count .addDirectory)
  copied : ∀ record, Has (count (·.addCopied record))
  planned : ∀ record, Has (count (·.addPlanned record))
  know : ∀ path, Has (addMaterialized path)
  makes : dryRun = false → ∀ path, Has (ensureDirectory path)
  writes : dryRun = false → ∀ source path content, Has (write source path content)
  reword : ∀ {α : Type} {action : Pass α} {reworded : Error → Error},
    (∀ error, ¬ error.IsRefusal → ¬ (reworded error).IsRefusal) → Has action →
    Has (tryCatch action fun error => MonadExcept.throw (reworded error))

/-- A property that also getting to know directories, recording files and changing files have, the
last in real passes only. -/
structure Composes (dryRun : Bool) (Has : ∀ {α : Type}, Pass α → Prop) : Prop
    extends Notes Has where
  directory : Has (count .addDirectory)
  copied : ∀ record, Has (count (·.addCopied record))
  planned : ∀ record, Has (count (·.addPlanned record))
  know : ∀ path, Has (addMaterialized path)
  change : dryRun = false → ∀ made, Has (modify fun state => { state with fileSystem := made })
  reword : ∀ {α : Type} {action : Pass α} {reworded : Error → Error},
    (∀ error, ¬ error.IsRefusal → ¬ (reworded error).IsRefusal) → Has action →
    Has (tryCatch action fun error => MonadExcept.throw (reworded error))

variable {Has : ∀ {α : Type}, Pass α → Prop} {α : Type} {directory path source : Path}
  {content : List UInt8} {entry : SourceEntry} {stripping : Bool} {task : Task}

theorem prepareRoot_eq (path : Path) :
    prepareRoot path false = (do
      if ← tryCatch (ensureDirectory path) fun error => MonadExcept.throw error.atRoot
      then count .addDirectory) := by
  unfold prepareRoot
  rw [if_neg (by decide)]
  congr 2
  funext error
  cases error <;> rfl

/-! ### Steps that look and take notes -/

namespace Notes

variable (notes : Notes Has)

include notes

theorem ask {question : FileSystem → Except Failure α} {error : String → Error}
    (granted : ∀ reason, ¬ (error reason).IsRefusal) : Has (ask question error) := by
  unfold Pass.ask
  refine notes.bind (notes.look (·.fileSystem)) fun fs => ?_
  split
  next => exact notes.pure _
  next failure _ => exact notes.throw (granted failure.message)

theorem forM {items : List α} {body : α → Pass PUnit} (round : ∀ item, Has (body item)) :
    Has (items.forM body) := by
  induction items with
  | nil => exact notes.pure _
  | cons item rest ih => exact notes.bind (round item) fun _ => ih

theorem requireSafe : Has (requireSafe task path) := by
  unfold Pass.requireSafe
  refine notes.bind (notes.look (·.fileSystem)) fun fs => ?_
  split
  next => exact notes.pure _
  next => exact notes.throw nofun

theorem classify (entries : List (Name × Object)) : Has (classify directory entries) := by
  induction entries with
  | nil => exact notes.pure _
  | cons found rest ih =>
    unfold Pass.classify
    refine notes.bind (notes.look (·.fileSystem)) fun fs => ?_
    split
    next => exact notes.bind ih fun _ => notes.pure _
    next => exact notes.bind ih fun _ => notes.pure _
    next => exact notes.bind (notes.routine (.warn _)) fun _ => ih

theorem list : Has (list directory) := by
  unfold Pass.list
  refine notes.bind (notes.ask fun _ => nofun) fun entries => ?_
  exact notes.bind (notes.classify entries) fun _ => notes.pure _

theorem hasContent : Has (hasContent entry) := by
  unfold Pass.hasContent
  split
  next => exact notes.pure _
  next =>
    refine notes.bind (notes.ask fun _ => nofun) fun target => ?_
    split
    next => exact notes.pure _
    next =>
      refine notes.bind (notes.routine (.warn _)) fun _ => ?_
      exact notes.bind (notes.routine .skipped) fun _ => notes.pure _

theorem admits : Has (admits task entry) := by
  unfold Pass.admits
  split
  next => exact notes.bind (notes.routine (.note _ _)) fun _ => notes.pure _
  split
  next => exact notes.bind (notes.routine (.note _ _)) fun _ => notes.pure _
  split
  next => exact notes.bind (notes.routine (.warn _)) fun _ => notes.pure _
  next => exact notes.pure _

end Notes

/-! ### Steps that change the twin -/

namespace Covers

theorem prepareRoot {dryRun : Bool} (covers : Covers dryRun Has) :
    Has (prepareRoot path dryRun) := by
  cases dryRun with
  | true => exact covers.pure _
  | false =>
    rw [prepareRoot_eq]
    refine covers.bind (covers.reword (fun _ => Error.not_isRefusal_atRoot) (covers.makes rfl path))
      fun isNew => ?_
    split
    next => exact covers.directory
    next => exact covers.pure _

variable (covers : Covers task.options.dryRun Has)

include covers

theorem materialize : Has (materialize task path) := by
  unfold Pass.materialize
  refine covers.bind (covers.look _) fun known => ?_
  split
  next => exact covers.pure _
  refine covers.bind covers.requireSafe fun _ => ?_
  split
  next => exact covers.bind (covers.know path) fun _ => covers.directory
  next notDry =>
    refine covers.bind (covers.makes (by simpa using notDry) path) fun isNew => ?_
    split
    next => exact covers.bind (covers.routine (.note _ _)) fun _ => covers.directory
    next => exact covers.pure _

theorem finish : Has (finish task source path content stripping) := by
  unfold Pass.finish
  split
  next => exact covers.bind (covers.routine (.note _ _)) fun _ => covers.planned _
  next notDry =>
    refine covers.bind (covers.routine (.note _ _)) fun _ => ?_
    exact covers.bind (covers.writes (by simpa using notDry) _ _ _) fun _ => covers.copied _

theorem copy : Has (copy task directory path) := by
  have onward : Has (do
      Pass.requireSafe task (Placement.file task.source task.twin task.options.renamings path)
      let text ← Pass.ask (·.readText path) (.fileNotRead path)
      Pass.finish task path (Placement.file task.source task.twin task.options.renamings path)
        (Utf8.encode (adapt task.rules (task.policy directory) text)) (task.policy directory)) :=
    covers.bind covers.requireSafe fun _ =>
      covers.bind (covers.ask fun _ => nofun) fun _ => covers.finish
  unfold Pass.copy
  dsimp only
  split
  next => exact covers.bind covers.materialize fun _ => onward
  next => exact onward

theorem handleFile : Has (handleFile task directory entry) := by
  unfold Pass.handleFile
  refine covers.bind (covers.routine .scanned) fun _ => ?_
  split
  next => exact covers.pure _
  next => exact covers.bind (covers.routine (.note _ _)) fun _ => covers.routine .skipped
  next =>
    refine covers.bind (covers.routine .matched) fun _ => ?_
    refine covers.bind covers.hasContent fun has => ?_
    split
    next => exact covers.copy
    next => exact covers.pure _

theorem walk (depth : Nat) : Has (walk task depth directory) := by
  induction depth generalizing directory with
  | zero => exact covers.throw nofun
  | succ depth ih =>
    unfold Pass.walk
    refine covers.bind covers.materialize fun _ => ?_
    refine covers.bind covers.list fun listing => ?_
    refine covers.bind (covers.forM fun _ => covers.handleFile) fun _ => ?_
    refine covers.forM fun entry => covers.bind covers.admits fun admitted => ?_
    split
    next => exact ih
    next => exact covers.pure _

end Covers

namespace Composes

/-- The two steps that change files are made of small changes. -/
theorem covers {dryRun : Bool} (composes : Composes dryRun Has) : Covers dryRun Has where
  toNotes := composes.toNotes
  directory := composes.directory
  copied := composes.copied
  planned := composes.planned
  know := composes.know
  makes real path := by
    unfold ensureDirectory
    refine composes.bind (composes.look _) fun known => ?_
    split
    next => exact composes.pure _
    next =>
      refine composes.bind (composes.look (·.fileSystem)) fun fs => ?_
      refine composes.bind (composes.change real _) fun _ => ?_
      split
      next => exact composes.throw nofun
      next => exact composes.bind (composes.know path) fun _ => composes.pure _
  writes real source path content := by
    have changes : ∀ {access : FileSystem → Except Failure FileSystem},
        Has (Pass.change access (.fileNotWritten path)) := fun {access} =>
      composes.bind (composes.ask fun _ => nofun) fun made => composes.change real made
    unfold write
    exact composes.bind changes fun _ => composes.bind changes fun _ => changes
  reword := composes.reword

end Composes

end Pass

end TwinTree
