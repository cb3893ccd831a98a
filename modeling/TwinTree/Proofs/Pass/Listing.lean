import Mathlib.Data.List.Sort
import TwinTree.Proofs.FileSystem.View
import TwinTree.Proofs.Pass.Soundness

/-!
# Listing a source directory

Listing changes no file. What it gives is the directory's entries of each kind in the order of
their names (`list_meets`); sorting is insertion (`sortByName_eq`).
-/
namespace TwinTree

open FileSystem

/-! ### The order of names -/

/-- A text comes before another one, or is the same. -/
def NotAfter (first second : List Char) : Prop := comesBefore second first = false

instance (first second : List Char) : Decidable (NotAfter first second) :=
  inferInstanceAs (Decidable (_ = _))

theorem NotAfter.trans {first second third : List Char} (early : NotAfter first second)
    (late : NotAfter second third) : NotAfter first third :=
  List.lex_eq_false_iff_ge.2
    (List.le_trans (List.lex_eq_false_iff_ge.1 early) (List.lex_eq_false_iff_ge.1 late))

theorem NotAfter.total (first second : List Char) :
    NotAfter first second ∨ NotAfter second first :=
  (List.le_total first second).imp List.lex_eq_false_iff_ge.2 List.lex_eq_false_iff_ge.2

theorem NotAfter.antisymm {first second : List Char} (ordered : NotAfter first second)
    (reverse : NotAfter second first) : first = second :=
  List.le_antisymm (List.lex_eq_false_iff_ge.1 ordered) (List.lex_eq_false_iff_ge.1 reverse)

theorem comesBefore_of_ne {first second : List Char} (ordered : NotAfter first second)
    (different : first ≠ second) : comesBefore first second = true := by
  by_contra notBefore
  exact different (ordered.antisymm (Bool.eq_false_iff.2 notBefore))

namespace SourceEntry

theorem sortByName_eq (entries : List SourceEntry) :
    sortByName entries = entries.insertionSort fun first second =>
      NotAfter first.name second.name := by
  have inserted : ∀ (entry : SourceEntry) (sorted : List SourceEntry),
      entry.insertByName sorted =
        sorted.orderedInsert (fun first second => NotAfter first.name second.name) entry := by
    intro entry sorted
    induction sorted with
    | nil => rfl
    | cons other rest ih =>
      rw [insertByName, List.orderedInsert_cons, ih]
      cases before : comesBefore other.name entry.name <;> simp [NotAfter, before]
  induction entries with
  | nil => rfl
  | cons entry rest ih =>
    rw [List.insertionSort_cons, ← ih, ← inserted]
    rfl

/-- What a pass makes of an entry of a directory. -/
def ofEntry (directory : Path) (found : Name × Object) : SourceEntry :=
  ⟨directory.join ⟨found.1⟩, Utf8.lossy found.1, found.2.isLink⟩

/-- The entries of a directory that count as of one kind. -/
def ofKind (fs : FileSystem) (directory : Path) (kind : Kind) (entries : List (Name × Object)) :
    List (Name × Object) :=
  entries.filter fun found => SourceEntry.kind fs (directory.join ⟨found.1⟩) found.2 = kind

/-- The entries of a directory that count as of one kind, in the order of their names. -/
def listed (fs : FileSystem) (directory : Path) (kind : Kind) (entries : List (Name × Object)) :
    List (Name × Object) :=
  (ofKind fs directory kind entries).insertionSort fun first second =>
    NotAfter (Utf8.lossy first.1) (Utf8.lossy second.1)

theorem listed_perm (fs : FileSystem) (directory : Path) (kind : Kind)
    (entries : List (Name × Object)) :
    (listed fs directory kind entries).Perm (ofKind fs directory kind entries) :=
  List.perm_insertionSort _ _

/-- Entries are sorted by what they are made of. -/
theorem sortByName_map (directory : Path) (entries : List (Name × Object)) :
    sortByName (entries.map (ofEntry directory)) =
      (entries.insertionSort fun first second =>
        NotAfter (Utf8.lossy first.1) (Utf8.lossy second.1)).map (ofEntry directory) := by
  rw [sortByName_eq]
  symm
  refine List.map_insertionSort
    (fun first second : Name × Object => NotAfter (Utf8.lossy first.1) (Utf8.lossy second.1))
    (fun first second : SourceEntry => NotAfter first.name second.name) (ofEntry directory) _ ?_
  exact fun _ _ _ _ => Iff.rfl

theorem mem_listed {fs : FileSystem} {directory : Path} {kind : Kind}
    {entries : List (Name × Object)} {found : Name × Object} :
    found ∈ listed fs directory kind entries ↔
      found ∈ entries ∧ SourceEntry.kind fs (directory.join ⟨found.1⟩) found.2 = kind := by
  refine (List.mem_insertionSort _).trans ?_
  rw [ofKind, List.mem_filter, decide_eq_true_iff]

/-- What a view shows alike counts as of one kind. -/
theorem kind_eq_of_seenAlike {view : List UInt8 → List UInt8} {fs other : FileSystem}
    {object object' : Object} (files : SeenAlike view fs other) (path : Path)
    (shown : object'.through view = object.through view) :
    kind other path object' = kind fs path object := by
  rcases Object.eq_or_of_through_eq shown with rfl | ⟨_, _, _, rfl, rfl, _⟩
  · cases object' <;> simp [kind, files.isDirectory]
  · rfl

end SourceEntry

namespace Journal

/-- Warns of several things, one after the other. -/
def warnAll (journal : Journal) (warnings : List String) : Journal where
  report := { journal.report with warnings := journal.report.warnings ++ warnings }
  log := journal.log ++ warnings.map fun warning => ⟨.warn, .report, warning⟩

@[simp]
theorem warnAll_nil (journal : Journal) : journal.warnAll [] = journal := by
  simp [warnAll]

theorem warnAll_cons (journal : Journal) (warning : String) (warnings : List String) :
    journal.warnAll (warning :: warnings) = (journal.warn warning).warnAll warnings := by
  simp [warnAll, warn, Report.addWarning]

end Journal

namespace Pass

variable {task : Task} {before : FileSystem} {state after : State} {directory : Path}
  {failed : State → Prop}

/-- An operation that leaves files, known directories and records alone. -/
structure Quiet (state after : State) : Prop where
  files : after.fileSystem = state.fileSystem
  known : after.materialized = state.materialized
  records : after.journal.report.records = state.journal.report.records

theorem Quiet.sound (quiet : Quiet state after) (sound : Sound task before state) :
    Sound task before after :=
  sound.congr quiet.files quiet.known

/-- What a listing says, kind by kind and in the order of the entries. -/
def sorted (fs : FileSystem) (directory : Path) (entries : List (Name × Object)) : Listing where
  directories := (SourceEntry.ofKind fs directory .directory entries).map (.ofEntry directory)
  files := (SourceEntry.ofKind fs directory .file entries).map (.ofEntry directory)

/-- The warnings of the entries that can be neither copied nor entered. -/
def specialWarnings (fs : FileSystem) (directory : Path) (entries : List (Name × Object)) :
    List String :=
  (SourceEntry.ofKind fs directory .special entries).map fun found =>
    "Special file skipped: " ++ (directory.join ⟨found.1⟩).display

/-- What sorting the entries of a directory gives, and that it only warns. -/
theorem run_classify (entries : List (Name × Object)) (state : State) :
    EStateM.run (classify directory entries) state =
      .ok (sorted state.fileSystem directory entries)
        { state with
          journal := state.journal.warnAll
            (specialWarnings state.fileSystem directory entries) } := by
  induction entries generalizing state with
  | nil => rw [specialWarnings, SourceEntry.ofKind, List.filter_nil, List.map_nil,
      Journal.warnAll_nil]; rfl
  | cons found rest ih =>
    obtain ⟨name, object⟩ := found
    -- What one entry adds to the entries of a kind.
    have kinds : ∀ kind,
        SourceEntry.ofKind state.fileSystem directory kind ((name, object) :: rest) =
        if SourceEntry.kind state.fileSystem (directory.join ⟨name⟩) object = kind then
          (name, object) :: SourceEntry.ofKind state.fileSystem directory kind rest
        else SourceEntry.ofKind state.fileSystem directory kind rest := by
      intro kind
      rw [SourceEntry.ofKind, List.filter_cons]
      simp only [decide_eq_true_eq]
      rfl
    have view : EStateM.run fileSystem state = .ok state.fileSystem state := rfl
    rw [classify, sorted, specialWarnings, kinds, kinds, kinds, run_bind, view]
    dsimp only
    cases SourceEntry.kind state.fileSystem (directory.join ⟨name⟩) object with
    | directory =>
      simp only [run_bind, ih]
      rfl
    | file =>
      simp only [run_bind, ih]
      rfl
    | special =>
      rw [if_neg (by decide), if_neg (by decide), if_pos rfl, List.map_cons, Journal.warnAll_cons]
      exact ih _

/-- What listing a directory gives, once its entries have been read. -/
def listing (fs : FileSystem) (directory : Path) (entries : List (Name × Object)) : Listing where
  directories := (SourceEntry.listed fs directory .directory entries).map (.ofEntry directory)
  files := (SourceEntry.listed fs directory .file entries).map (.ofEntry directory)

/-- Listing gives the entries that matter in the order of their names, and warns of the others in
the order in which they have been read. -/
theorem run_list (directory : Path) (state : State) :
    EStateM.run (list directory) state =
      match state.fileSystem.readDirectory directory with
      | .ok entries => .ok (listing state.fileSystem directory entries)
          { state with
            journal := state.journal.warnAll
              (specialWarnings state.fileSystem directory entries) }
      | .error failure => .error (.directoryNotRead directory failure.message) state := by
  have asked : EStateM.run (ask (·.readDirectory directory) (.directoryNotRead directory)) state =
      match state.fileSystem.readDirectory directory with
      | .ok entries => .ok entries state
      | .error failure => .error (.directoryNotRead directory failure.message) state := by
    have view : EStateM.run fileSystem state = .ok state.fileSystem state := rfl
    rw [ask, run_bind, view]
    dsimp only
    cases state.fileSystem.readDirectory directory <;> rfl
  rw [list, run_bind, asked]
  cases state.fileSystem.readDirectory directory with
  | error failure => rfl
  | ok entries =>
    simp only [run_bind, run_classify, listing, SourceEntry.listed, ← SourceEntry.sortByName_map]
    rfl

theorem list_meets {failed : State → Prop} (refused : failed state) :
    Meets (list directory) state
      (fun listing after => Quiet state after ∧ ∃ entries,
        state.fileSystem.readDirectory directory = .ok entries ∧
        listing.directories = (SourceEntry.listed state.fileSystem directory .directory entries).map
          (.ofEntry directory) ∧
        listing.files = (SourceEntry.listed state.fileSystem directory .file entries).map
          (.ofEntry directory)) failed := by
  unfold Meets
  rw [run_list]
  cases read : state.fileSystem.readDirectory directory with
  | error => exact refused
  | ok entries => exact ⟨⟨rfl, rfl, rfl⟩, entries, rfl, rfl, rfl⟩

/-- What is read from a directory is what stands directly beneath some location. -/
theorem exists_of_readDirectory {fs : FileSystem} {entries : List (Name × Object)}
    (found : fs.readDirectory directory = .ok entries) :
    ∃ location, fs.locate directory true = .ok location ∧
      fs.get? location = some .directory ∧ entries = fs.children location := by
  obtain ⟨location, located, rest⟩ := bind_eq_ok_iff.1 found
  obtain ⟨object, required, rest⟩ := bind_eq_ok_iff.1 rest
  have standing := require_eq_ok_iff.1 required
  split at rest
  next => exact ⟨location, located, standing, (Except.ok.inj rest).symm⟩
  next => cases rest

/-- What is read from a directory of the source is what was in it at the start. -/
theorem readDirectory_eq_children {names : List Name} {entries : List (Name × Object)}
    (grounded : Grounded task before) (sound : Sound task before state)
    (beneath : Path.Beneath directory task.source names)
    (standing : before.get? (task.stand before names) = some .directory)
    (read : state.fileSystem.readDirectory directory = .ok entries) :
    entries = before.children (task.stand before names) := by
  obtain ⟨location, located, found, rfl⟩ := exists_of_readDirectory read
  obtain ⟨_, spare, way⟩ := locate_eq_ok_iff.1 located
  obtain ⟨left, _, leads⟩ := sound.leads_stand grounded beneath standing
  -- Reading has found a location by its own way, which can only be the place of the directory.
  obtain rfl := ((leads_steps_iff found).1 way).unique leads
  exact sound.children_eq grounded (List.suffix_append ..)

end Pass

end TwinTree
