import TwinTree.Proofs.Pass.Listing

/-!
# Handling entries

A file entry is copied exactly when it is taken: when its name is selected and it has content, or
leads to a regular file. With this, a whole walk keeps the invariant, whatever the source holds and
however the walk ends (`walk_sound`).
-/
namespace TwinTree

open FileSystem

/-- A link has content when it leads to a regular file. -/
def SourceEntry.HasContent (fs : FileSystem) (entry : SourceEntry) : Prop :=
  entry.isLink = true → (fs.stat entry.path).toOption.any Object.isRegular = true

instance (fs : FileSystem) (entry : SourceEntry) : Decidable (entry.HasContent fs) :=
  inferInstanceAs (Decidable (_ → _))

theorem SourceEntry.hasContent_iff {fs : FileSystem} {entry : SourceEntry} :
    entry.HasContent fs ↔
      (entry.isLink = true →
        ∃ object, fs.stat entry.path = .ok object ∧ object.isRegular = true) := by
  refine imp_congr_right fun _ => ?_
  cases fs.stat entry.path with
  | ok object => simp [Except.toOption]
  | error => simp [Except.toOption]

/-- A file entry that is copied. -/
def Task.Takes (task : Task) (fs : FileSystem) (entry : SourceEntry) : Prop :=
  Selection.ofName task.options task.excludedFiles entry.name = .selected ∧ entry.HasContent fs

instance (task : Task) (fs : FileSystem) (entry : SourceEntry) : Decidable (task.Takes fs entry) :=
  inferInstanceAs (Decidable (_ ∧ _))

/-- The name of a directory that is entered. -/
def Task.Enters (task : Task) (name : List Char) : Prop :=
  isVersionControl name = false ∧ task.excludedDirectories.excludes name = false

namespace Pass

variable {task : Task} {before : FileSystem} {state after : State} {directory : Path}
  {names : List Name} {entry : SourceEntry} {failed : State → Prop}

/-! ### Copying a file -/

/-- What copying a file ends with, once its text is known. -/
def finish (task : Task) (path destination : Path) (content : List UInt8) (stripping : Bool) :
    Pass Unit := do
  let record : Record := ⟨path, destination, stripping⟩
  if task.options.dryRun then
    note .info ("Would copy " ++ path.display ++ " -> " ++ destination.display)
    count (·.addPlanned record)
  else
    note .info ("Copying " ++ path.display ++ " -> " ++ destination.display)
    write path destination content
    count (·.addCopied record)

theorem finish_of_dry {task : Task} {path destination : Path} {content : List UInt8}
    {stripping : Bool} (dry : task.options.dryRun = true) :
    finish task path destination content stripping = (do
      note .info ("Would copy " ++ path.display ++ " -> " ++ destination.display)
      count (·.addPlanned ⟨path, destination, stripping⟩)) := if_pos dry

theorem finish_of_real {task : Task} {path destination : Path} {content : List UInt8}
    {stripping : Bool} (real : task.options.dryRun = false) :
    finish task path destination content stripping = (do
      note .info ("Copying " ++ path.display ++ " -> " ++ destination.display)
      write path destination content
      count (·.addCopied ⟨path, destination, stripping⟩)) := if_neg (by simp [real])

theorem copy_eq (task : Task) (directory path parent : Path)
    (above : (Placement.file task.source task.twin task.options.renamings path).parent? =
      some parent) :
    copy task directory path = (do
      materialize task parent
      requireSafe task (Placement.file task.source task.twin task.options.renamings path)
      let text ← ask (·.readText path) (.fileNotRead path)
      finish task path (Placement.file task.source task.twin task.options.renamings path)
        (Utf8.encode (adapt task.rules (task.policy directory) text)) (task.policy directory)) := by
  unfold copy
  simp only [above]
  rfl

/-- A file is copied once its directory is ready and its text has been read. -/
theorem meets_copy {path : Path} {ready : State → Prop} {post : Unit → State → Prop}
    (materializes : ∀ above, Meets (materialize task above) state (fun _ => ready) failed)
    (idle : ready state) (refused : ∀ middle, ready middle → failed middle)
    (finishes : ∀ middle text, ready middle → middle.fileSystem.readText path = .ok text →
      Meets (finish task path (Placement.file task.source task.twin task.options.renamings path)
        (Utf8.encode (adapt task.rules (task.policy directory) text)) (task.policy directory))
        middle post failed) :
    Meets (copy task directory path) state post failed := by
  have onward : ∀ middle, ready middle → Meets (do
      requireSafe task (Placement.file task.source task.twin task.options.renamings path)
      let text ← ask (·.readText path) (.fileNotRead path)
      finish task path (Placement.file task.source task.twin task.options.renamings path)
        (Utf8.encode (adapt task.rules (task.policy directory) text)) (task.policy directory))
      middle post failed := by
    intro middle holds
    refine meets_requireSafe_bind (fun _ => ?_) (refused middle holds)
    exact meets_ask_bind (fun text => finishes middle text holds) (refused middle holds)
  cases parent : (Placement.file task.source task.twin task.options.renamings path).parent? with
  | none =>
    unfold copy
    simp only [parent]
    exact onward state idle
  | some above =>
    rw [copy_eq task directory path above parent]
    exact (materializes above).bind fun _ => onward

/-! ### Deciding on an entry -/

theorem hasContent_meets (refused : failed state) :
    Meets (hasContent entry) state
      (fun has after => Quiet state after ∧ (has = true ↔ entry.HasContent state.fileSystem))
      failed := by
  have quiet : Quiet state state := ⟨rfl, rfl, rfl⟩
  unfold hasContent
  split
  next plain =>
    refine meets_pure ⟨quiet, by simp [SourceEntry.HasContent] at plain ⊢; simp [plain]⟩
  next link =>
    have isLink : entry.isLink = true := by simpa using link
    refine meets_ask_bind (fun object shown => ?_) refused
    split
    next regular =>
      refine meets_pure ⟨quiet, iff_of_true rfl ?_⟩
      exact SourceEntry.hasContent_iff.2 fun _ => ⟨object, shown, regular⟩
    next special =>
      refine meets_modify_bind (meets_modify_bind (meets_pure ⟨⟨rfl, rfl, rfl⟩, by simp, ?_⟩))
      intro content
      obtain ⟨other, same, regular⟩ := SourceEntry.hasContent_iff.1 content isLink
      cases shown.symm.trans same
      exact absurd regular special

/-- What handling a file entry has done: it is copied if it is taken, and nothing if not. -/
inductive Handled (task : Task) (before : FileSystem) (directory : Path) (names : List Name)
    (name : Name) (entry : SourceEntry) (state after : State) : Prop where
  | passed : ¬ task.Takes state.fileSystem entry → Quiet state after →
      Handled task before directory names name entry state after
  | copied : task.Takes state.fileSystem entry →
      Copied task before directory entry.path names name state after →
      Handled task before directory names name entry state after

theorem handleFile_meets {name : Name} {object : Object} (grounded : Grounded task before)
    (sound : Sound task before state)
    (standing : before.get? (task.stand before (names ++ [name])) = some object)
    (noDirectory : object.isDirectory = false)
    (beneath : Path.Beneath directory task.source names)
    (path_eq : entry.path = directory.join ⟨name⟩) :
    Meets (handleFile task directory entry) state
      (fun _ after => Handled task before directory names name entry state after)
      (Sound task before) := by
  unfold handleFile
  refine meets_modify_bind ?_
  split
  next unrecognized =>
    refine meets_pure (.passed ?_ ⟨rfl, rfl, rfl⟩)
    rintro ⟨selected, _⟩
    cases unrecognized.symm.trans selected
  next skipped =>
    refine meets_modify_bind (meets_modify (.passed ?_ ⟨rfl, rfl, rfl⟩))
    rintro ⟨selected, _⟩
    cases skipped.symm.trans selected
  next selected =>
    refine meets_modify_bind ?_
    refine Meets.bind (hasContent_meets (sound.congr rfl rfl)) ?_
    rintro has asked ⟨quiet, content⟩
    -- The counters and the warning are the only traces of the questions asked so far.
    have quiet : Quiet state asked := ⟨quiet.files, quiet.known, quiet.records⟩
    cases has with
    | false =>
      refine meets_pure (.passed ?_ quiet)
      rintro ⟨_, holds⟩
      cases content.2 holds
    | true =>
      have copies := copy_meets grounded (quiet.sound sound) standing noDirectory beneath
      rw [← path_eq] at copies
      refine copies.mono (fun _ done copied => ?_) fun _ => id
      refine .copied ⟨selected, content.1 rfl⟩ ⟨copied.sound, ?_, ?_, copied.written⟩
      · exact quiet.files ▸ copied.evolves
      · exact copied.records.trans (congrArg (· ++ _) quiet.records)

theorem Handled.sound {name : Name}
    (handled : Handled task before directory names name entry state after)
    (sound : Sound task before state) : Sound task before after := by
  cases handled with
  | passed _ quiet => exact quiet.sound sound
  | copied _ copied => exact copied.sound

theorem admits_meets :
    Meets (admits task entry) state
      (fun admitted after => Quiet state after ∧
        (admitted = true ↔ task.Enters entry.name ∧ entry.isLink = false)) failed := by
  unfold admits Task.Enters
  split
  next known =>
    exact meets_modify_bind (meets_pure ⟨⟨rfl, rfl, rfl⟩, by simp [known]⟩)
  split
  next excluded =>
    exact meets_modify_bind (meets_pure ⟨⟨rfl, rfl, rfl⟩, by simp [excluded]⟩)
  split
  next link =>
    exact meets_modify_bind (meets_pure ⟨⟨rfl, rfl, rfl⟩, by simp [link]⟩)
  next known excluded link =>
    exact meets_pure ⟨⟨rfl, rfl, rfl⟩, by simp_all⟩

/-- An entry that is gone through, and where it stands in the source. -/
structure Stands (task : Task) (before : FileSystem) (directory : Path) (names : List Name)
    (entry : SourceEntry) (name : Name) (object : Object) : Prop where
  path_eq : entry.path = directory.join ⟨name⟩
  beneath : Path.Beneath entry.path task.source (names ++ [name])
  name_eq : entry.name = Utf8.lossy name
  isLink_eq : entry.isLink = object.isLink
  standing : before.get? (task.stand before (names ++ [name])) = some object

theorem stands_of_mem {found : Name × Object} (grounded : Grounded task before)
    (beneath : Path.Beneath directory task.source names)
    (member : found ∈ before.children (task.stand before names)) :
    Stands task before directory names (.ofEntry directory found) found.1 found.2 := by
  obtain ⟨name, object⟩ := found
  have held := mem_children.1 member
  have plain := (grounded.wellFormed.ordinary _ held name List.mem_cons_self).isPlain
  refine ⟨rfl, beneath.join plain, rfl, rfl, ?_⟩
  have found : before.get? (name :: task.stand before names) = some object :=
    find?_of_mem grounded.wellFormed.nodup held
  rwa [task.stand_append_singleton]

theorem exists_stands {kind : SourceEntry.Kind} {entries : List (Name × Object)} {fs : FileSystem}
    (grounded : Grounded task before) (beneath : Path.Beneath directory task.source names)
    (read : entries = before.children (task.stand before names))
    (member : entry ∈ (SourceEntry.listed fs directory kind entries).map (.ofEntry directory)) :
    ∃ name object, Stands task before directory names entry name object ∧
      SourceEntry.kind fs entry.path object = kind := by
  obtain ⟨found, within, rfl⟩ := List.mem_map.1 member
  obtain ⟨listed, same⟩ := SourceEntry.mem_listed.1 within
  rw [read] at listed
  exact ⟨found.1, found.2, stands_of_mem grounded beneath listed, same⟩

theorem isDirectory_eq_false_of_kind {fs : FileSystem} {path : Path} {object : Object}
    (same : SourceEntry.kind fs path object = .file) : object.isDirectory = false := by
  cases object <;> first | rfl | cases same

theorem eq_directory_of_kind {fs : FileSystem} {path : Path} {object : Object}
    (same : SourceEntry.kind fs path object = .directory) (plain : object.isLink = false) :
    object = .directory := by
  cases object <;> first | rfl | cases same | cases plain

/-- A walk keeps the invariant, also when it ends in an error. -/
theorem walk_sound {depth : Nat} (grounded : Grounded task before) (sound : Sound task before state)
    (beneath : Path.Beneath directory task.source names)
    (standing : before.get? (task.stand before names) = some .directory) :
    Meets (walk task depth directory) state (fun _ => Sound task before) (Sound task before) := by
  -- The fuel is what the recursion is on: one unit for each directory on the way down.
  induction depth generalizing state directory names with
  | zero => exact meets_throw sound
  | succ depth ih =>
    unfold walk
    refine (materialize_meets grounded sound standing (Placement.beneath_directory beneath)).bind ?_
    rintro _ prepared ⟨kept, _⟩
    refine (list_meets kept.sound).bind ?_
    rintro listing listed ⟨quiet, entries, read, directories, files⟩
    have children := readDirectory_eq_children grounded kept.sound beneath standing read
    have handled : Meets (listing.files.forM (handleFile task directory)) listed
        (fun _ => Sound task before) (Sound task before) := by
      refine meets_forM_of_mem (quiet.sound kept.sound) fun entry member state sound => ?_
      rw [files] at member
      obtain ⟨name, object, stands, same⟩ := exists_stands grounded beneath children member
      exact (handleFile_meets grounded sound stands.standing (isDirectory_eq_false_of_kind same)
        beneath stands.path_eq).mono (fun _ _ handled => handled.sound sound) fun _ => id
    refine handled.bind fun _ done sound => ?_
    refine meets_forM_of_mem sound fun entry member state sound => ?_
    rw [directories] at member
    obtain ⟨name, object, stands, same⟩ := exists_stands grounded beneath children member
    refine Meets.bind admits_meets ?_
    rintro admitted asked ⟨quiet, enters⟩
    split
    next entered =>
      have plain : object.isLink = false := stands.isLink_eq ▸ (enters.1 entered).2
      exact ih (quiet.sound sound) stands.beneath
        (eq_directory_of_kind same plain ▸ stands.standing)
    next => exact meets_pure (quiet.sound sound)

end Pass

end TwinTree
