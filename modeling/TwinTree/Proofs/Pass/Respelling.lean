import TwinTree.Proofs.FileSystem.Respelling
import TwinTree.Proofs.FileSystem.View
import TwinTree.Proofs.Pass.Expansion
import TwinTree.Proofs.Pass.Handling
import TwinTree.Proofs.Pass.Unison

/-!
# What two spellings of the source have in common

A pass tells of the paths it meets, so under two spellings of one source its errors, records and
warnings are about paths that are the same (`Report.Respelled`). What a directory lists is the same
under both spellings (`list_beside`), as long as no text is too long.
-/
namespace TwinTree

open FileSystem

/-- The same task under another spelling of its source. -/
def Task.respelled (task : Task) (source : Path) : Task := { task with source := source }

/-! ### What is reported under two spellings -/

/-- Records of one file under two spellings of the source. The file lies in a directory that is
held there, and each is judged by the text of that directory in its own spelling. -/
structure Record.Respelled (source source' : Path) (policy : Policy) (held : List Name → Prop)
    (record record' : Record) : Prop where
  same : record'.source.Same record.source
  destination : record'.destination = record.destination
  judged : ∃ names, held names ∧ record.source.LiesIn source names ∧
    record'.source.LiesIn source' names ∧ record.stripped = policy (source.extend names) ∧
    record'.stripped = policy (source'.extend names)

/-- Reports under two spellings of the source. They count the same but for what is stripped. -/
structure Report.Respelled (source source' : Path) (policy : Policy) (held : List Name → Prop)
    (report report' : Report) : Prop where
  scanned : report'.scanned = report.scanned
  matched : report'.matched = report.matched
  copied : report'.copied = report.copied
  skipped : report'.skipped = report.skipped
  directories : report'.directories = report.directories
  warnings : report'.warnings.length = report.warnings.length
  records : List.Forall₂ (Record.Respelled source source' policy held) report.records
    report'.records
  stripped : report'.records.map Record.stripped = report.records.map Record.stripped →
    report'.stripped = report.stripped

/-- Journals whose reports are under two spellings of the source. -/
def Journal.Respelled (source source' : Path) (policy : Policy) (held : List Name → Prop)
    (journal journal' : Journal) : Prop :=
  journal.report.Respelled source source' policy held journal'.report

/-- Errors of one kind and for one reason, about paths that are the same. -/
inductive Error.Respelled : Error → Error → Prop where
  | refl (error : Error) : Respelled error error
  | source {path path' : Path} : path'.Same path →
      Respelled (.sourceNotDirectory path) (.sourceNotDirectory path')
  | overlap {path path' : Path} (twin : Path) : path'.Same path →
      Respelled (.overlap path twin) (.overlap path' twin)
  | directory {path path' : Path} (reason : String) : path'.Same path →
      Respelled (.directoryNotRead path reason) (.directoryNotRead path' reason)
  | file {path path' : Path} (reason : String) : path'.Same path →
      Respelled (.fileNotRead path reason) (.fileNotRead path' reason)

namespace Report.Respelled

variable {source source' : Path} {policy : Policy} {held : List Name → Prop}
  {report report' : Report} {record record' : Record}

theorem start : Report.Respelled source source' policy held {} {} where
  scanned := rfl
  matched := rfl
  copied := rfl
  skipped := rfl
  directories := rfl
  warnings := rfl
  records := .nil
  stripped _ := rfl

variable (respelled : report.Respelled source source' policy held report')

include respelled

theorem addScanned : report.addScanned.Respelled source source' policy held report'.addScanned :=
  { respelled with scanned := congrArg (· + 1) respelled.scanned }

theorem addMatched : report.addMatched.Respelled source source' policy held report'.addMatched :=
  { respelled with matched := congrArg (· + 1) respelled.matched }

theorem addSkipped : report.addSkipped.Respelled source source' policy held report'.addSkipped :=
  { respelled with skipped := congrArg (· + 1) respelled.skipped }

theorem addDirectory :
    report.addDirectory.Respelled source source' policy held report'.addDirectory :=
  { respelled with directories := congrArg (· + 1) respelled.directories }

theorem addWarnings {warnings warnings' : List String}
    (many : warnings'.length = warnings.length) :
    Report.Respelled source source' policy held
      { report with warnings := report.warnings ++ warnings }
      { report' with warnings := report'.warnings ++ warnings' } :=
  { respelled with
    warnings := by simp [respelled.warnings, many] }

theorem addWarning (warning warning' : String) :
    (report.addWarning warning).Respelled source source' policy held
      (report'.addWarning warning') :=
  respelled.addWarnings rfl

theorem addPlanned (recorded : record.Respelled source source' policy held record') :
    (report.addPlanned record).Respelled source source' policy held (report'.addPlanned record') :=
  { respelled with
    skipped := congrArg (· + 1) respelled.skipped
    records := List.rel_append respelled.records (.cons recorded .nil)
    stripped := by
      intro same
      simp only [Report.addPlanned, List.map_append] at same
      exact respelled.stripped (List.append_inj' same rfl).1 }

theorem addCopied (recorded : record.Respelled source source' policy held record') :
    (report.addCopied record).Respelled source source' policy held (report'.addCopied record') :=
  { respelled with
    copied := congrArg (· + 1) respelled.copied
    records := List.rel_append respelled.records (.cons recorded .nil)
    stripped := by
      intro same
      simp only [Report.addCopied, List.map_append] at same ⊢
      obtain ⟨before, last⟩ := List.append_inj' same rfl
      rw [respelled.stripped before, (List.cons.inj last).1] }

end Report.Respelled

namespace Pass

/-! ### States side by side -/

/-- What is taken for granted of two spellings of the source, and of a view that shows what is read
and what is written alike under both. -/
structure Spelled (source source' : Path) (policy : Policy) (held : List Name → Prop)
    (view : List UInt8 → List UInt8) : Prop where
  same : source'.Same source
  nonempty : source.bytes ≠ []
  readable : ∀ {content content'}, view content' = view content →
    (Utf8.decode? content').isSome = (Utf8.decode? content).isSome
  adapted : ∀ {names content content' text text'} (rules : List Rule),
    held names → (∀ name ∈ names, IsPlain name) → view content' = view content →
    Utf8.decode? content = some text → Utf8.decode? content' = some text' →
    view (Utf8.encode (adapt rules (policy (source'.extend names)) text')) =
      view (Utf8.encode (adapt rules (policy (source.extend names)) text))

/-- States that a view shows alike, with reports under two spellings of the source. -/
abbrev Level (task : Task) (source' : Path) (held : List Name → Prop)
    (view : List UInt8 → List UInt8) : State → State → Prop :=
  Attuned (SeenAlike view) (Journal.Respelled task.source source' task.policy held)

/-- Two actions have been stopped by errors of one kind. -/
def Stopped (level : State → State → Prop) (error error' : Error) (state state' : State) : Prop :=
  error.Respelled error' ∧ level state state'

/-- The texts of all that is beneath a location are short enough in both spellings. -/
def WithinLimit (source source' : Path) (home : Location) (fs : FileSystem) : Prop :=
  ∀ names : List Name, fs.get? (names.reverse ++ home) ≠ none →
    (source.extend names).bytes.length ≤ pathLimit ∧
      (source'.extend names).bytes.length ≤ pathLimit

/-- Nothing beneath a location has a text that is too long, and its directories are those held. -/
structure Foreseen (source source' : Path) (held : List Name → Prop) (home : Location)
    (fs : FileSystem) : Prop where
  within : WithinLimit source source' home fs
  held : ∀ names : List Name, fs.get? (names.reverse ++ home) = some .directory → held names

/-- Something beneath a location has not been foreseen. -/
def Unforeseen (source source' : Path) (held : List Name → Prop) (home : Location)
    (state : State) : Prop :=
  state.fileSystem.Orderly ∧ ¬ Foreseen source source' held home state.fileSystem

variable {α β : Type} {task : Task} {source source' path path' : Path} {fs : FileSystem}
  {held : List Name → Prop} {view : List UInt8 → List UInt8} {state state' : State}
  {home : Location} {names : List Name} {name : Name} {action : Pass α} {action' : Pass β}

/-- What the first of two actions has added to the file system may be used. -/
theorem Beside.growing {post : α → β → State → State → Prop}
    {failed : Error → Error → State → State → Prop} (expands : Expands action)
    (orderly : state.fileSystem.Orderly)
    (beside : Beside action action' state state' post failed) :
    Beside action action' state state' (fun value value' after after' =>
      Extends state.fileSystem after.fileSystem ∧ post value value' after after') failed :=
  beside.knowing (expands state orderly).forget

/-- What has not been foreseen stays there. -/
theorem Expands.unforeseen (expands : Expands action)
    (unforeseen : Unforeseen source source' held home state) :
    Meets action state (fun _ => Unforeseen source source' held home)
      (Unforeseen source source' held home) := by
  obtain ⟨orderly, strange⟩ := unforeseen
  have stays : ∀ {after : State}, Extends state.fileSystem after.fileSystem →
      Unforeseen source source' held home after :=
    fun extended => ⟨extended.orderly, fun foreseen => strange
      ⟨fun names existing => foreseen.within names (extended.existing existing),
        fun names directory => foreseen.held names (extended.directory directory)⟩⟩
  exact (expands state orderly).mono (fun _ _ => stays) fun _ => stays

theorem WithinLimit.join {object : Object} (within : WithinLimit source source' home fs)
    (standing : fs.get? (name :: (names.reverse ++ home)) = some object) :
    ((source.extend names).join ⟨name⟩).bytes.length ≤ pathLimit ∧
      ((source'.extend names).join ⟨name⟩).bytes.length ≤ pathLimit := by
  rw [← Path.extend_append_singleton, ← Path.extend_append_singleton]
  exact within (names ++ [name]) (by simp [standing])

theorem concord_respelled (task : Task) (source' : Path) (held : List Name → Prop)
    (view : List UInt8 → List UInt8) :
    Concord (SeenAlike view) (fun content content' => view content' = view content)
      (Journal.Respelled task.source source' task.policy held) where
  likeness := likeness_seenAlike view
  routine {change journal journal'} routine respelled := by
    cases routine with
    | scanned => exact Report.Respelled.addScanned respelled
    | matched => exact Report.Respelled.addMatched respelled
    | skipped => exact Report.Respelled.addSkipped respelled
    | note => exact respelled
    | warn => exact Report.Respelled.addWarning respelled _ _
  directory := Report.Respelled.addDirectory

/-! ### Steps that take notes -/

section

variable (level : Level task source' held view state state')

include level

theorem Level.take {change : Journal → Journal} (routine : Journal.Routine change) :
    Level task source' held view { state with journal := change state.journal }
      { state' with journal := change state'.journal } :=
  (concord_respelled task source' held view).take level routine

theorem Level.note (priority : Log.Level) (message message' : String) :
    Level task source' held view
      { state with journal := state.journal.note priority message }
      { state' with journal := state'.journal.note priority message' } :=
  ⟨level.files, level.known, level.journal⟩

theorem Level.warn (warning warning' : String) :
    Level task source' held view
      { state with journal := state.journal.warn warning }
      { state' with journal := state'.journal.warn warning' } :=
  ⟨level.files, level.known, Report.Respelled.addWarning level.journal _ _⟩

end

/-- The same step on both sides. -/
theorem beside_of_together {step step' : Pass α}
    (together : Together step step' state state' (fun _ => Level task source' held view)
      (Level task source' held view)) :
    Beside step step' state state'
      (fun value value' after after' => value' = value ∧ Level task source' held view after after')
      (Stopped (Level task source' held view)) :=
  together.beside (fun _ _ _ => .intro rfl) fun error _ _ => .intro (.refl error)

/-! ### Listing -/

/-- Entries that a view shows alike are of the same kinds. -/
theorem ofKind_respelled {other : FileSystem} {kind : SourceEntry.Kind}
    {entries entries' : List (Name × Object)}
    (kinds : ∀ found ∈ entries, ∀ object : Object,
      object.through view = found.2.through view →
      SourceEntry.kind other (path'.join ⟨found.1⟩) object =
        SourceEntry.kind fs (path.join ⟨found.1⟩) found.2)
    (seen : entries'.map (fun found => (found.1, found.2.through view)) =
      entries.map fun found => (found.1, found.2.through view)) :
    (SourceEntry.ofKind other path' kind entries').map (SourceEntry.ofEntry path') =
      (SourceEntry.ofKind fs path kind entries).map (SourceEntry.ofEntry path') := by
  -- Both listings have the same names in the same order, so one induction goes along both.
  induction entries generalizing entries' with
  | nil =>
    obtain rfl := List.map_eq_nil_iff.1 seen
    rfl
  | cons found rest ih =>
    obtain ⟨⟨name, object'⟩, rest', rfl, first, others⟩ := List.map_eq_cons_iff.1 seen
    obtain ⟨_, object⟩ := found
    simp only [Prod.mk.injEq] at first
    obtain ⟨rfl, shown⟩ := first
    rw [List.forall_mem_cons] at kinds
    have kind_eq := kinds.1 object' shown
    have entry_eq : SourceEntry.ofEntry path' (name, object') =
        SourceEntry.ofEntry path' (name, object) := by
      rw [SourceEntry.ofEntry, SourceEntry.ofEntry, ← @Object.isLink_through view, shown,
        Object.isLink_through]
    have rest_eq := ih kinds.2 others
    simp only [SourceEntry.ofKind, List.filter_cons, kind_eq] at rest_eq ⊢
    split
    next => rw [List.map_cons, List.map_cons, entry_eq, rest_eq]
    next => exact rest_eq

/-- What two listings of one directory have in common: the entries that stand there. -/
structure ListedAlike (fs : FileSystem) (location : Location) (path path' : Path)
    (listing listing' : Listing) : Prop where
  directories : ∃ entries : List (Name × Object),
    listing.directories = entries.map (.ofEntry path) ∧
    listing'.directories = entries.map (.ofEntry path') ∧
    ∀ found ∈ entries, fs.get? (found.1 :: location) = some found.2 ∧
      (found.2.isLink = false → found.2 = .directory)
  files : ∃ entries : List (Name × Object),
    listing.files = entries.map (.ofEntry path) ∧
    listing'.files = entries.map (.ofEntry path') ∧
    ∀ found ∈ entries, fs.get? (found.1 :: location) = some found.2

theorem kind_respelled {other : FileSystem} {object object' : Object}
    (files : SeenAlike view fs other) (orderly : fs.Orderly)
    (within : WithinLimit source source' home fs)
    (stands : Respelled fs (names.reverse ++ home) (source.extend names) (source'.extend names))
    (standing : fs.get? (name :: (names.reverse ++ home)) = some object)
    (shown : object'.through view = object.through view) :
    SourceEntry.kind other ((source'.extend names).join ⟨name⟩) object' =
      SourceEntry.kind fs ((source.extend names).join ⟨name⟩) object := by
  obtain ⟨plain, _⟩ := orderly.holds standing _ List.mem_cons_self
  obtain ⟨short, short'⟩ := within.join standing
  rw [SourceEntry.kind_eq_of_seenAlike files _ shown]
  cases object <;> simp [SourceEntry.kind, stands.isDirectory plain short short']

theorem listing_respelled {other : FileSystem} {entries entries' : List (Name × Object)}
    (files : SeenAlike view fs other) (orderly : fs.Orderly)
    (within : WithinLimit source source' home fs)
    (stands : Respelled fs (names.reverse ++ home) (source.extend names) (source'.extend names))
    (read : fs.readDirectory (source.extend names) = .ok entries)
    (seen : entries'.map (fun found => (found.1, found.2.through view)) =
      entries.map fun found => (found.1, found.2.through view)) :
    ListedAlike fs (names.reverse ++ home) (source.extend names) (source'.extend names)
        (listing fs (source.extend names) entries) (listing other (source'.extend names) entries') ∧
      (specialWarnings other (source'.extend names) entries').length =
        (specialWarnings fs (source.extend names) entries).length := by
  have standing : ∀ found ∈ entries,
      fs.get? (found.1 :: (names.reverse ++ home)) = some found.2 := by
    intro entry member
    rw [stands.eq_children read] at member
    exact orderly.get?_of_mem_children member
  have ofKind_eq : ∀ kind, (SourceEntry.ofKind other (source'.extend names) kind entries').map
      (SourceEntry.ofEntry (source'.extend names)) =
      (SourceEntry.ofKind fs (source.extend names) kind entries).map
        (SourceEntry.ofEntry (source'.extend names)) :=
    fun kind => ofKind_respelled (fun found member object =>
      kind_respelled files orderly within stands (standing found member)) seen
  -- Sorting goes by the names, so it does not matter how the directory is spelled.
  have listed_eq : ∀ kind, (SourceEntry.listed other (source'.extend names) kind entries').map
      (SourceEntry.ofEntry (source'.extend names)) =
      (SourceEntry.listed fs (source.extend names) kind entries).map
        (SourceEntry.ofEntry (source'.extend names)) := by
    intro kind
    rw [SourceEntry.listed, SourceEntry.listed, ← SourceEntry.sortByName_map, ofKind_eq,
      SourceEntry.sortByName_map]
  refine ⟨⟨⟨_, rfl, listed_eq _, ?_⟩, ⟨_, rfl, listed_eq _, ?_⟩⟩, ?_⟩
  · intro entry member
    obtain ⟨listed, kind⟩ := SourceEntry.mem_listed.1 member
    exact ⟨standing entry listed, eq_directory_of_kind kind⟩
  · intro entry member
    exact standing entry (SourceEntry.mem_listed.1 member).1
  · have many := congrArg List.length (ofKind_eq .special)
    simpa [specialWarnings] using many

theorem list_beside (level : Level task source' held view state state')
    (orderly : state.fileSystem.Orderly)
    (within : WithinLimit task.source source' home state.fileSystem)
    (stands : Respelled state.fileSystem (names.reverse ++ home) (task.source.extend names)
      (source'.extend names)) :
    Beside (list (task.source.extend names)) (list (source'.extend names)) state state'
      (fun listing listing' after after' =>
        after.fileSystem = state.fileSystem ∧ Level task source' held view after after' ∧
        ListedAlike state.fileSystem (names.reverse ++ home) (task.source.extend names)
          (source'.extend names) listing listing')
      (Stopped (Level task source' held view)) := by
  -- The directory is there, so its texts are short enough and both spellings are accepted.
  obtain ⟨short, short'⟩ := within names (by simp [stands.directory])
  have alike := Alongside.of_map_eq (level.files.readDirectory (source'.extend names))
  rw [stands.readDirectory short short'] at alike
  unfold Beside
  rw [run_list, run_list]
  generalize read : state.fileSystem.readDirectory (task.source.extend names) = result at alike ⊢
  generalize state'.fileSystem.readDirectory (source'.extend names) = result' at alike ⊢
  cases alike with
  | error => exact ⟨.directory _ stands.same, level⟩
  | @ok entries entries' shown =>
    obtain ⟨listed, warned⟩ :=
      listing_respelled level.files orderly within stands read shown.2.2
    exact ⟨rfl, ⟨level.files, level.known, level.journal.addWarnings warned⟩, listed⟩

end Pass

end TwinTree
