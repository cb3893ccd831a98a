import TwinTree.Proofs.Pass.Lockstep
import TwinTree.Proofs.Pass.Together

/-!
# Walks in unison

Two walks over one source may differ in their policies and in the file systems they begin with. As
long as no access tells those apart, and what has been noted stays related, they do the same step
by step, also where they fail. `Concord` is what the relations between file systems, contents and
journals have to satisfy for the steps that make the twin, and `Unison` for those that ask for the
policy; `Duet` adds what listing and reading the source have to give, and then whole walks end alike
(`Duet.walk`).
-/
namespace TwinTree

open FileSystem

/-- A change that does not depend on what is written records no file. -/
theorem Journal.Routine.quiet {change : Journal → Journal} (routine : Journal.Routine change)
    (state : State) : Pass.Quiet state { state with journal := change state.journal } :=
  ⟨rfl, rfl, by cases routine <;> rfl⟩

/-- The same task under another policy. -/
def Task.under (task : Task) (policy : Policy) : Task := { task with policy := policy }

/-- States that neither an access nor a look at the notes tells apart. -/
structure Attuned (Files : FileSystem → FileSystem → Prop) (Notes : Journal → Journal → Prop)
    (state state' : State) : Prop where
  files : Files state.fileSystem state'.fileSystem
  known : state'.materialized = state.materialized
  journal : Notes state.journal state'.journal

namespace Pass

/-- What relations have to satisfy for the steps that neither read nor write a file to end alike. -/
structure Concord (Files : FileSystem → FileSystem → Prop)
    (Contents : List UInt8 → List UInt8 → Prop) (Notes : Journal → Journal → Prop) : Prop where
  likeness : Likeness Files Contents
  routine : ∀ {change journal journal'}, Journal.Routine change → Notes journal journal' →
    Notes (change journal) (change journal')
  directory : ∀ {journal journal'}, Notes journal journal' →
    Notes (journal.count .addDirectory) (journal'.count .addDirectory)

/-- What relations have to satisfy for steps under two policies to end alike. -/
structure Unison (task : Task) (policy : Policy) (Files : FileSystem → FileSystem → Prop)
    (Contents : List UInt8 → List UInt8 → Prop) (Notes : Journal → Journal → Prop) : Prop
    extends Concord Files Contents Notes where
  adapted : ∀ directory text,
    Contents (Utf8.encode (adapt task.rules (task.policy directory) text))
      (Utf8.encode (adapt task.rules (policy directory) text))
  planned : ∀ {journal journal'} path destination directory, Notes journal journal' →
    Notes (journal.count (·.addPlanned ⟨path, destination, task.policy directory⟩))
      (journal'.count (·.addPlanned ⟨path, destination, policy directory⟩))
  copied : ∀ {journal journal'} path destination directory, Notes journal journal' →
    Notes (journal.count (·.addCopied ⟨path, destination, task.policy directory⟩))
      (journal'.count (·.addCopied ⟨path, destination, policy directory⟩))

variable {task : Task} {policy : Policy} {before : FileSystem}
  {Files : FileSystem → FileSystem → Prop} {Contents : List UInt8 → List UInt8 → Prop}
  {Notes : Journal → Journal → Prop} {Behind : State → Prop} {state state' : State}
  {path source destination directory : Path} {content content' : List UInt8} {text : List Char}
  {names : List Name} {name : Name} {object : Object} {entry : SourceEntry}

/-! ### Steps that do not ask for the policy -/

theorem selection_under :
    Selection.ofName (task.under policy).options (task.under policy).excludedFiles entry.name =
      Selection.ofName task.options task.excludedFiles entry.name := rfl

namespace Concord

variable (concord : Concord Files Contents Notes) (alike : Attuned Files Notes state state')

include concord alike

/-! ### Steps that take notes -/

theorem take {change : Journal → Journal} (routine : Journal.Routine change) :
    Attuned Files Notes { state with journal := change state.journal }
      { state' with journal := change state'.journal } :=
  ⟨alike.files, alike.known, concord.routine routine alike.journal⟩

theorem account : Attuned Files Notes
    { state with journal := state.journal.count .addDirectory }
    { state' with journal := state'.journal.count .addDirectory } :=
  ⟨alike.files, alike.known, concord.directory alike.journal⟩

theorem hasContent :
    Together (hasContent entry) (hasContent entry) state state' (fun _ => Attuned Files Notes)
      (Attuned Files Notes) := by
  unfold Pass.hasContent
  split
  next => exact together_pure alike
  refine together_ask_bind (concord.likeness.isRegular alike.files entry.path)
    (fun object object' _ _ regular => ?_) alike
  rw [regular]
  split
  next => exact together_pure alike
  next =>
    refine together_modify_bind (together_modify_bind (together_pure ?_))
    exact concord.take (concord.take alike (.warn _)) .skipped

theorem admits :
    Together (admits task entry) (admits task entry) state state'
      (fun _ => Attuned Files Notes) (Attuned Files Notes) := by
  have noted : ∀ {change : Journal → Journal}, Journal.Routine change →
      Together (do modify fun state => { state with journal := change state.journal }; return false)
        (do modify fun state => { state with journal := change state.journal }; return false)
        state state' (fun _ => Attuned Files Notes) (Attuned Files Notes) :=
    fun routine => together_modify_bind (together_pure (concord.take alike routine))
  unfold Pass.admits
  split
  next => exact noted (.note _ _)
  split
  next => exact noted (.note _ _)
  split
  next => exact noted (.warn _)
  next => exact together_pure alike

/-! ### Steps that change the twin -/

theorem ensureDirectory :
    Together (ensureDirectory path) (ensureDirectory path) state state'
      (fun _ => Attuned Files Notes) (Attuned Files Notes) := by
  obtain ⟨files, outcomes⟩ := concord.likeness.createDirectories alike.files path
  unfold Pass.ensureDirectory
  refine together_isMaterialized_bind alike.known fun known => ?_
  split
  next => exact together_pure alike
  refine together_fileSystem_bind ?_
  cases created : state.fileSystem.createDirectories path with
  | mk made outcome =>
    cases created' : state'.fileSystem.createDirectories path with
    | mk made' outcome' =>
      rw [created, created'] at files outcomes
      obtain rfl : outcome' = outcome := outcomes
      refine together_modify_bind ?_
      cases outcome' with
      | error => exact together_throw ⟨files, alike.known, alike.journal⟩
      | ok =>
        refine together_modify_bind (together_pure ⟨files, ?_, alike.journal⟩)
        exact congrArg (· ++ [path]) alike.known

theorem prepareRoot {dryRun : Bool} :
    Together (prepareRoot path dryRun) (prepareRoot path dryRun) state state'
      (fun _ => Attuned Files Notes) (Attuned Files Notes) := by
  unfold Pass.prepareRoot
  split
  next => exact together_pure alike
  refine Together.bind ((concord.ensureDirectory alike).tryCatch fun error _ _ alike => ?_)
    fun isNew _ _ alike => ?_
  · split <;> exact together_throw alike
  · split
    next => exact together_modify (concord.account alike)
    next => exact together_pure alike

theorem materialize :
    Together (materialize task path) (materialize task path) state state'
      (fun _ => Attuned Files Notes) (Attuned Files Notes) := by
  unfold Pass.materialize
  refine together_isMaterialized_bind alike.known fun known => ?_
  split
  next => exact together_pure alike
  refine together_requireSafe_bind (concord.likeness.checkSafe alike.files path task.twin)
    (fun _ => ?_) alike
  split
  next =>
    refine together_modify_bind (together_modify ?_)
    exact ⟨alike.files, congrArg (· ++ [path]) alike.known, concord.directory alike.journal⟩
  next =>
    refine (concord.ensureDirectory alike).bind fun isNew _ _ alike => ?_
    split
    next =>
      exact together_modify_bind
        (together_modify (concord.account (concord.take alike (.note _ _))))
    next => exact together_pure alike

omit concord in
theorem change {access access' : FileSystem → Except Failure FileSystem} {error : String → Error}
    (alongside : Alongside Files (access state.fileSystem) (access' state'.fileSystem)) :
    Together (change access error) (change access' error) state state'
      (fun _ => Attuned Files Notes) (Attuned Files Notes) :=
  together_change alongside (fun _ _ files => ⟨files, alike.known, alike.journal⟩) alike

theorem write (related : Contents content content') :
    Together (write source destination content) (write source destination content') state state'
      (fun _ => Attuned Files Notes) (Attuned Files Notes) := by
  have likeness := concord.likeness
  unfold Pass.write
  refine (change alike (likeness.ensureWritable alike.files _)).bind fun _ _ _ alike => ?_
  refine (change alike (likeness.writeFile alike.files _ related)).bind fun _ _ _ alike => ?_
  exact change alike (likeness.copyMode alike.files _ _)

end Concord

namespace Unison

variable (unison : Unison task policy Files Contents Notes)
  (alike : Attuned Files Notes state state')

include unison alike

/-! ### Steps that depend on the policy -/

theorem finish :
    Together
      (finish task source destination
        (Utf8.encode (adapt task.rules (task.policy directory) text)) (task.policy directory))
      (finish (task.under policy) source destination
        (Utf8.encode (adapt task.rules (policy directory) text)) (policy directory))
      state state' (fun _ => Attuned Files Notes) (Attuned Files Notes) := by
  cases dry : task.options.dryRun with
  | true =>
    have dry' : (task.under policy).options.dryRun = true := dry
    rw [finish_of_dry dry, finish_of_dry dry']
    refine together_modify_bind (together_modify ?_)
    have alike := unison.take alike (.note .info
      ("Would copy " ++ source.display ++ " -> " ++ destination.display))
    exact ⟨alike.files, alike.known, unison.planned _ _ _ alike.journal⟩
  | false =>
    have real' : (task.under policy).options.dryRun = false := dry
    rw [finish_of_real dry, finish_of_real real']
    refine together_modify_bind ?_
    have alike := unison.take alike (.note .info
      ("Copying " ++ source.display ++ " -> " ++ destination.display))
    refine (unison.write alike (unison.adapted _ _)).bind fun _ _ _ alike => ?_
    exact together_modify ⟨alike.files, alike.known, unison.copied _ _ _ alike.journal⟩

end Unison

/-! ### Whole walks -/

/-- What also has to hold for walks under two policies to end alike, where `Behind` is what has to
be known of the second by itself. -/
structure Duet (task : Task) (policy : Policy) (before : FileSystem)
    (Files : FileSystem → FileSystem → Prop) (Contents : List UInt8 → List UInt8 → Prop)
    (Notes : Journal → Journal → Prop) (Behind : State → Prop) : Prop
    extends Unison task policy Files Contents Notes where
  grounded : Grounded task before
  lists : ∀ {state state' directory names}, Attuned Files Notes state state' →
    Sound task before state → Path.Beneath directory task.source names →
    before.get? (task.stand before names) = some .directory →
    Together (list directory) (list directory) state state' (fun _ => Attuned Files Notes)
      (Attuned Files Notes)
  reads : ∀ {state state' directory names name object}, Attuned Files Notes state state' →
    Sound task before state → Behind state' → Path.Beneath directory task.source names →
    before.get? (task.stand before (names ++ [name])) = some object →
    state'.fileSystem.readText (directory.join ⟨name⟩) =
      state.fileSystem.readText (directory.join ⟨name⟩)
  quiet : ∀ {state after}, Quiet state after → Behind state → Behind after
  materializes : ∀ {state path names}, Behind state →
    before.get? (task.stand before names) = some .directory → Path.Beneath path task.twin names →
    Meets (Pass.materialize (task.under policy) path) state (fun _ => Behind) fun _ => True
  copies : ∀ {state directory names name object}, Behind state →
    before.get? (task.stand before (names ++ [name])) = some object →
    object.isDirectory = false → Path.Beneath directory task.source names →
    Meets (copy (task.under policy) directory (directory.join ⟨name⟩)) state (fun _ => Behind)
      fun _ => True

/-- The states of two walks in unison. -/
structure Paired (task : Task) (before : FileSystem) (Files : FileSystem → FileSystem → Prop)
    (Notes : Journal → Journal → Prop) (Behind : State → Prop) (state state' : State) : Prop where
  alike : Attuned Files Notes state state'
  ahead : Sound task before state
  behind : Behind state'

namespace Duet

variable (duet : Duet task policy before Files Contents Notes Behind)
  (paired : Paired task before Files Notes Behind state state')

include duet paired

theorem copy (standing : before.get? (task.stand before (names ++ [name])) = some object)
    (noDirectory : object.isDirectory = false)
    (beneath : Path.Beneath directory task.source names) :
    Together (copy task directory (directory.join ⟨name⟩))
      (copy (task.under policy) directory (directory.join ⟨name⟩)) state state'
      (fun _ => Paired task before Files Notes Behind) (Attuned Files Notes) := by
  have grounded := duet.grounded
  have stand_eq := task.stand_append_singleton before names name
  have entry : before.get? (name :: task.stand before names) = some object := stand_eq ▸ standing
  have enclosed : before.get? (task.stand before names) = some .directory :=
    grounded.wellFormed.get?_tail entry
  have inside := beneath.join (grounded.wellFormed.isPlain entry name List.mem_cons_self)
  obtain ⟨parent, found, above⟩ : ∃ parent, (Placement.file task.source task.twin
      task.options.renamings (directory.join ⟨name⟩)).parent? = some parent ∧
      Path.Beneath parent task.twin names :=
    Placement.exists_parent?_file grounded.replaced inside
  have copies : Together (Pass.copy task directory (directory.join ⟨name⟩))
      (Pass.copy (task.under policy) directory (directory.join ⟨name⟩)) state state'
      (fun _ => Attuned Files Notes) (Attuned Files Notes) := by
    rw [copy_eq task _ _ parent found, copy_eq (task.under policy) _ _ parent found]
    have prepares := materialize_meets grounded paired.ahead enclosed above
    refine Together.bind (.knowing prepares.forget (duet.materializes paired.behind enclosed above)
      (duet.materialize paired.alike)) ?_
    rintro _ ready ready' ⟨⟨kept, _⟩, behind, alike⟩
    refine together_requireSafe_bind (duet.likeness.checkSafe alike.files _ task.twin)
      (fun _ => ?_) alike
    have read : (ready'.fileSystem.readText (directory.join ⟨name⟩)).map id =
        (ready.fileSystem.readText (directory.join ⟨name⟩)).map id :=
      congrArg _ (duet.reads alike kept.sound behind beneath standing)
    refine together_ask_bind read (fun text text' _ _ same => ?_) alike
    obtain rfl : text' = text := same
    exact duet.finish alike
  have copied := copy_meets grounded paired.ahead standing noDirectory beneath
  refine Together.mono (.knowing copied.forget
    (duet.copies paired.behind standing noDirectory beneath) copies) ?_ fun _ _ => id
  rintro _ after after' ⟨copied, behind, alike⟩
  exact ⟨alike, copied.sound, behind⟩

theorem take {change : Journal → Journal} (routine : Journal.Routine change) :
    Paired task before Files Notes Behind { state with journal := change state.journal }
      { state' with journal := change state'.journal } where
  alike := duet.toUnison.take paired.alike routine
  ahead := paired.ahead.congr rfl rfl
  behind := duet.quiet (routine.quiet _) paired.behind

omit paired in
/-- What is known of two walks by themselves, once they have only taken notes. -/
theorem paired_of_quiet {after after' : State} (alike : Attuned Files Notes after after')
    (paired : Sound task before state ∧ Behind state') (quiet : Quiet state after)
    (quiet' : Quiet state' after') : Paired task before Files Notes Behind after after' :=
  ⟨alike, quiet.sound paired.1, duet.quiet quiet' paired.2⟩

theorem handleFile (standing : before.get? (task.stand before (names ++ [name])) = some object)
    (noDirectory : object.isDirectory = false)
    (beneath : Path.Beneath directory task.source names)
    (path_eq : entry.path = directory.join ⟨name⟩) :
    Together (handleFile task directory entry) (handleFile (task.under policy) directory entry)
      state state' (fun _ => Paired task before Files Notes Behind) (Attuned Files Notes) := by
  unfold Pass.handleFile
  refine together_modify_bind ?_
  have paired := duet.take paired .scanned
  rw [selection_under]
  cases Selection.ofName task.options task.excludedFiles entry.name with
  | unrecognized => exact together_pure paired
  | skipped =>
    refine together_modify_bind (together_modify ?_)
    exact duet.take (duet.take paired (.note _ _)) .skipped
  | selected =>
    refine together_modify_bind ?_
    have paired := duet.take paired .matched
    refine Together.bind (.knowing (hasContent_meets trivial) (hasContent_meets trivial)
      (duet.hasContent paired.alike)) ?_
    rintro has asked asked' ⟨⟨quiet, _⟩, ⟨quiet', _⟩, alike⟩
    have paired := duet.paired_of_quiet alike ⟨paired.ahead, paired.behind⟩ quiet quiet'
    split
    next =>
      rw [path_eq]
      exact duet.copy paired standing noDirectory beneath
    next => exact together_pure paired

/-- Two walks in unison end alike, also when they fail. -/
theorem walk {depth : Nat} (beneath : Path.Beneath directory task.source names)
    (standing : before.get? (task.stand before names) = some .directory) :
    Together (walk task depth directory) (walk (task.under policy) depth directory) state state'
      (fun _ => Paired task before Files Notes Behind) (Attuned Files Notes) := by
  have grounded := duet.grounded
  induction depth generalizing state state' directory names with
  | zero => exact together_throw paired.alike
  | succ depth ih =>
    have below : Path.Beneath (Placement.directory task.source task.twin directory) task.twin
        names := Placement.beneath_directory beneath
    unfold Pass.walk
    have prepares := materialize_meets grounded paired.ahead standing below
    refine Together.bind (.knowing prepares.forget (duet.materializes paired.behind standing below)
      (duet.materialize paired.alike)) ?_
    rintro _ prepared prepared' ⟨⟨kept, _⟩, behind, alike⟩
    refine Together.bind (.knowing (list_meets trivial) (list_meets trivial)
      (duet.lists alike kept.sound beneath standing)) ?_
    rintro listing listed listed' ⟨⟨quiet, entries, read, directories, files⟩, ⟨quiet', _⟩, alike⟩
    have paired := duet.paired_of_quiet alike ⟨kept.sound, behind⟩ quiet quiet'
    have children := readDirectory_eq_children grounded kept.sound beneath standing read
    have handled : Together (listing.files.forM (Pass.handleFile task directory))
        (listing.files.forM (Pass.handleFile (task.under policy) directory)) listed listed'
        (fun _ => Paired task before Files Notes Behind) (Attuned Files Notes) := by
      refine together_forM paired fun entry member state state' paired => ?_
      rw [files] at member
      obtain ⟨name, object, stands, same⟩ := exists_stands grounded beneath children member
      exact duet.handleFile paired stands.standing (isDirectory_eq_false_of_kind same) beneath
        stands.path_eq
    refine handled.bind fun _ done done' paired => ?_
    refine together_forM paired fun entry member state state' paired => ?_
    rw [directories] at member
    obtain ⟨name, object, stands, same⟩ := exists_stands grounded beneath children member
    refine Together.bind (.knowing admits_meets admits_meets (duet.admits paired.alike)) ?_
    rintro admitted asked asked' ⟨⟨quiet, enters⟩, ⟨quiet', _⟩, alike⟩
    have paired := duet.paired_of_quiet alike ⟨paired.ahead, paired.behind⟩ quiet quiet'
    split
    next entered =>
      have plain : object.isLink = false := stands.isLink_eq ▸ (enters.1 entered).2
      exact ih paired stands.beneath (eq_directory_of_kind same plain ▸ stands.standing)
    next => exact together_pure paired

end Duet

end Pass

end TwinTree
