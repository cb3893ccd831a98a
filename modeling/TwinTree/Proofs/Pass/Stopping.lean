import TwinTree.Proofs.Pass.Unhindered

/-!
# Where a walk stops

A walk that builds a twin from nothing ends well when no selected file is unreadable, and otherwise
in the error of the first one that it comes to (`walk_ends`): it comes to the files of a directory
in the order of their names, and then to what is beneath its subdirectories in the order of theirs.
-/
namespace TwinTree

open FileSystem

/-- A walk comes to a file before it comes to another one: first to the files of a directory, then
to what is in its subdirectories. -/
def SourceFile.Earlier (first second : SourceFile) : Prop :=
  List.Lex Precedes first.names second.names ∨
    first.names = second.names ∧ Precedes first.name second.name

/-- The first unreadable file that a walk comes to beneath some names. -/
structure Task.FirstUnreadable (task : Task) (before : FileSystem) (names : List Name)
    (file : SourceFile) : Prop where
  unreadable : task.Unreadable before file
  within : names <+: file.names
  first : ∀ other, task.Unreadable before other → names <+: other.names →
    other = file ∨ file.Earlier other

/-- The error of a walk that the first unreadable file beneath some names has stopped. -/
def Task.StoppedBeneath (task : Task) (before : FileSystem) (names : List Name) (error : Error) :
    Prop :=
  ∃ file, task.FirstUnreadable before names file ∧ ∃ reason,
    error = .fileNotRead (task.path file) reason

/-- All files of a directory can be read, and all that are beneath some of its entries. -/
def Task.Cleared (task : Task) (before : FileSystem) (names : List Name)
    (done : List (Name × Object)) : Prop :=
  ∀ file, task.Unreadable before file → names <+: file.names →
    file.names ≠ names ∧ ∀ found ∈ done, ¬ names ++ [found.1] <+: file.names

variable {task : Task} {before : FileSystem} {names : List Name} {file other : SourceFile}
  {name : Name} {found : Name × Object} {done behind : List (Name × Object)}

/-! ### The order of a walk -/

/-- The entries of a directory that are still to come. -/
theorem Task.precedes_of_split {kind : SourceEntry.Kind} (wellFormed : before.WellFormed)
    (split : task.listed before names kind = done ++ found :: behind) :
    ∀ later ∈ behind, Precedes found.1 later.1 := by
  have ordered := task.listed_pairwise wellFormed names kind
  rw [split] at ordered
  exact (List.pairwise_cons.1 (List.pairwise_append.1 ordered).2.1).1

/-- The files of a directory come before all that is further down. -/
theorem SourceFile.Earlier.of_above (within : file.names <+: other.names)
    (further : other.names ≠ file.names) : file.Earlier other := by
  obtain ⟨rest, split⟩ := within
  left
  rw [← split]
  cases rest with
  | nil => exact absurd (split.symm.trans (List.append_nil _)) further
  | cons name rest =>
    have shorter : List.Lex Precedes [] (name :: rest) := .nil
    simpa using shorter.append_left Precedes file.names

/-- What is beneath a subdirectory comes before what is beneath a later one. -/
theorem SourceFile.Earlier.of_subdirectories {later : Name}
    (within : names ++ [name] <+: file.names) (within' : names ++ [later] <+: other.names)
    (precedes : Precedes name later) : file.Earlier other := by
  obtain ⟨rest, split⟩ := within
  obtain ⟨rest', split'⟩ := within'
  left
  rw [← split, ← split', List.append_assoc, List.append_assoc]
  exact List.Lex.append_left Precedes (List.Lex.rel precedes) names

/-- An unreadable file is among the file entries of its directory. -/
theorem Task.Unreadable.exists_listed (unreadable : task.Unreadable before file)
    (grounded : Grounded task before) :
    ∃ object, (file.name, object) ∈ task.listed before file.names .file := by
  obtain ⟨visits, _, object, standing, trouble⟩ := unreadable
  refine ⟨object, (task.mem_listed_iff grounded.wellFormed).2 ⟨?_, ?_⟩⟩
  · rwa [task.stand_append_singleton]
  have noDirectory : before.isDirectory (task.path file) = false := by
    rw [isDirectory]
    rcases trouble with ⟨_, failure, broken⟩ | ⟨raw, mode, shown, _⟩
    · rw [broken]
    · rw [shown]
      rfl
  cases object with
  | link target => exact if_neg (Bool.eq_false_iff.1 noDirectory)
  | file content mode => rfl
  | _ =>
    -- Anything else would show itself, and it is no file.
    rcases trouble with ⟨isLink, _⟩ | ⟨raw, mode, shown, _⟩
    · cases isLink
    · have inside : Path.Beneath (task.source.extend file.names) task.source file.names :=
        .extend (visits.isPlain grounded.wellFormed)
      obtain ⟨left, leads⟩ := grounded.leads_stand inside visits.1
      cases get?_of_stat grounded.wellFormed leads standing rfl shown

/-- What is visited further down is beneath a subdirectory. -/
theorem Task.Visits.exists_subdirectory {trail : List Name} (visits : task.Visits before trail)
    (wellFormed : before.WellFormed) (within : names <+: trail) (further : trail ≠ names) :
    ∃ name, (name, Object.directory) ∈ task.listed before names .directory ∧
      names ++ [name] <+: trail := by
  obtain ⟨rest, rfl⟩ := within
  cases rest with
  | nil => exact absurd (List.append_nil names) further
  | cons name rest =>
    have split : names ++ name :: rest = names ++ [name] ++ rest := by simp
    rw [split] at visits ⊢
    have onward : task.Visits before (names ++ [name]) := visits.of_append wellFormed
    exact ⟨name, (task.mem_listed_iff wellFormed).2 ⟨onward.1, rfl⟩, List.prefix_append ..⟩

/-- When all subdirectories are done, no unreadable file is left. -/
theorem Task.Cleared.readable (wellFormed : before.WellFormed)
    (cleared : task.Cleared before names (task.listed before names .directory)) :
    ∀ file, task.Unreadable before file → ¬ names <+: file.names := by
  intro file unreadable within
  obtain ⟨further, none⟩ := cleared file unreadable within
  obtain ⟨name, listed, beneath⟩ :=
    unreadable.1.exists_subdirectory wellFormed within further
  exact none _ listed beneath

/-- The first unreadable file beneath a subdirectory is the first one of all, if those before the
subdirectory can be read. -/
theorem Task.FirstUnreadable.of_subdirectory (wellFormed : before.WellFormed)
    (split : task.listed before names .directory = done ++ found :: behind)
    (cleared : task.Cleared before names done)
    (first : task.FirstUnreadable before (names ++ [found.1]) file) :
    task.FirstUnreadable before names file := by
  refine ⟨first.unreadable, (List.prefix_append ..).trans first.within, ?_⟩
  intro other unreadable within
  obtain ⟨further, none⟩ := cleared other unreadable within
  obtain ⟨name, listed, beneath⟩ :=
    unreadable.1.exists_subdirectory wellFormed within further
  rw [split, List.mem_append, List.mem_cons] at listed
  rcases listed with isDone | equal | later
  · exact absurd beneath (none _ isDone)
  · obtain rfl : name = found.1 := congrArg Prod.fst equal
    exact first.first other unreadable beneath
  · exact .inr (.of_subdirectories first.within beneath
      (task.precedes_of_split wellFormed split _ later))

namespace Pass

variable {state : State} {entry : SourceEntry} (site : Site task before)

include site

/-! ### A whole walk -/

/-- The files of a directory are handled up to the first that cannot be read. -/
theorem files_ends {files : List SourceEntry} (building : Building task before state)
    (visits : task.Visits before names)
    (enclosed : state.fileSystem.get? (task.place before names) = some .directory)
    (listed : files = (task.listed before names .file).map (.ofEntry (task.source.extend names))) :
    Ends (files.forM (handleFile task (task.source.extend names))) state
      (fun _ after => Building task before after ∧
        Evolves (fun _ _ => True) state.fileSystem after.fileSystem ∧
        task.Cleared before names []) (task.StoppedBeneath before names) := by
  have grounded := site.grounded
  -- After a number of entries, none of them is an unreadable file.
  let invariant : List (Name × Object) → State → Prop := fun done after =>
    Building task before after ∧
      Evolves (fun _ _ => True) state.fileSystem after.fileSystem ∧
      ∀ found ∈ done, ¬ task.Unreadable before ⟨names, found.1⟩
  have started : invariant [] state := ⟨building, .refl building.sound.wellFormed, by simp⟩
  rw [listed, forM_map]
  refine (ends_forM started fun done found behind split middle kept => ?_).mono ?_ fun _ => id
  · obtain ⟨building, evolves, passed⟩ := kept
    have member : found ∈ task.listed before names .file := by simp [split]
    refine (handleFile_ends site building visits member (evolves.directory enclosed)).mono ?_ ?_
    · rintro _ after ⟨building, further, readable⟩
      exact ⟨building, evolves.trans further,
        List.forall_mem_append.2 ⟨passed, List.forall_mem_singleton.2 readable⟩⟩
    · rintro error ⟨unreadable, reason, rfl⟩
      refine ⟨⟨names, found.1⟩, ⟨unreadable, List.prefix_rfl, ?_⟩, reason, rfl⟩
      intro other trouble within
      by_cases further : other.names = names
      · obtain ⟨_, name⟩ := other
        obtain rfl : _ = names := further
        obtain ⟨object, listed⟩ := trouble.exists_listed grounded
        rw [split, List.mem_append, List.mem_cons] at listed
        rcases listed with isDone | equal | later
        · exact absurd trouble (passed _ isDone)
        · exact .inl (by rw [← equal])
        · exact .inr (.inr ⟨rfl, task.precedes_of_split grounded.wellFormed split _ later⟩)
      · exact .inr (.of_above within further)
  · rintro _ after ⟨building, evolves, passed⟩
    refine ⟨building, evolves, fun file unreadable _ => ⟨?_, by simp⟩⟩
    rintro rfl
    obtain ⟨object, listed⟩ := unreadable.exists_listed grounded
    exact passed _ listed unreadable

/-- How walks of a depth end, whichever directory they start from. -/
def WalksEnd (task : Task) (before : FileSystem) (depth : Nat) : Prop :=
  ∀ ⦃state names⦄, Building task before state → task.Visits before names →
    pathLimit < depth + (task.source.extend names).bytes.length →
    state.fileSystem.get? (task.place before names.dropLast) = some .directory →
    Ends (walk task depth (task.source.extend names)) state
      (fun _ after => Building task before after ∧
        Evolves (fun _ _ => True) state.fileSystem after.fileSystem ∧
        ∀ file, task.Unreadable before file → ¬ names <+: file.names)
      (task.StoppedBeneath before names)

/-- One more subdirectory is walked, or passed over with nothing to read in it. -/
theorem subdirectory_ends {depth : Nat} (deeper : WalksEnd task before depth)
    (building : Building task before state) (visits : task.Visits before names)
    (deep : pathLimit < depth + 1 + (task.source.extend names).bytes.length)
    (enclosed : state.fileSystem.get? (task.place before names) = some .directory)
    (split : task.listed before names .directory = done ++ found :: behind)
    (cleared : task.Cleared before names done) :
    Ends (do
        if ← admits task (.ofEntry (task.source.extend names) found) then
          walk task depth (SourceEntry.ofEntry (task.source.extend names) found).path) state
      (fun _ after => Building task before after ∧
        Evolves (fun _ _ => True) state.fileSystem after.fileSystem ∧
        task.Cleared before names (done ++ [found])) (task.StoppedBeneath before names) := by
  have wellFormed := site.grounded.wellFormed
  have member : found ∈ task.listed before names .directory := by simp [split]
  obtain ⟨standing, same⟩ := (task.mem_listed_iff wellFormed).1 member
  have extended : (∀ file, task.Unreadable before file → ¬ names ++ [found.1] <+: file.names) →
      task.Cleared before names (done ++ [found]) := by
    intro none file unreadable within
    obtain ⟨further, passed⟩ := cleared file unreadable within
    exact ⟨further, List.forall_mem_append.2
      ⟨passed, List.forall_mem_singleton.2 (none file unreadable)⟩⟩
  refine Ends.bind (Meets.ends admits_meets) ?_
  rintro admitted asked ⟨quiet, enters⟩
  have building := building.congr quiet.files quiet.known
  have there : asked.fileSystem.get? (task.place before names) = some .directory := by
    rw [quiet.files]
    exact enclosed
  rw [← quiet.files]
  cases admitted with
  | false =>
    -- Whatever is unreadable in there would be in a directory that is visited.
    refine ends_pure ⟨building, .refl building.sound.wellFormed, extended ?_⟩
    rintro file unreadable ⟨rest, within⟩
    have visited : task.Visits before (names ++ [found.1]) :=
      Task.Visits.of_append (within ▸ unreadable.1) wellFormed
    have isDirectory : found.2 = .directory := Option.some.inj (standing.symm.trans visited.1)
    have entered : task.Enters (Utf8.lossy found.1) := visited.2 _ (by simp)
    have noLink : found.2.isLink = false := by rw [isDirectory]; rfl
    exact absurd (enters.2 ⟨entered, noLink⟩) (by decide)
  | true =>
    obtain ⟨entered, noLink⟩ := enters.1 rfl
    have directory : found.2 = .directory := eq_directory_of_kind same noLink
    have visited : task.Visits before (names ++ [found.1]) :=
      ⟨directory ▸ standing, List.forall_mem_append.2
        ⟨visits.2, List.forall_mem_singleton.2 entered⟩⟩
    have plain := visited.isPlain wellFormed found.1 (by simp)
    have longer : (task.source.extend names).bytes.length <
        (task.source.extend (names ++ [found.1])).bytes.length := by
      rw [Path.extend_append_singleton]
      exact Path.length_join_name plain
    have walked := deeper building visited (by omega) (by rwa [List.dropLast_concat])
    rw [Path.extend_append_singleton] at walked
    refine walked.mono ?_ ?_
    · rintro _ after ⟨building, evolves, none⟩
      exact ⟨building, evolves, extended none⟩
    · rintro error ⟨file, first, reason, rfl⟩
      exact ⟨file, first.of_subdirectory wellFormed split cleared, reason, rfl⟩

/-- A walk ends well when all selected files can be read, and otherwise in the error of the first
one that cannot. -/
theorem walk_ends (depth : Nat) : WalksEnd task before depth := by
  -- The deeper a directory, the longer its path, so the walk is not cut short.
  induction depth with
  | zero =>
    intro state names _ visits deep _
    have short := (site.fits.directories names visits).1
    omega
  | succ depth ih =>
    intro state names building visits deep enclosed
    have inside : Path.Beneath (task.source.extend names) task.source names :=
      .extend (visits.isPlain site.grounded.wellFormed)
    obtain ⟨_, short, short'⟩ := site.fits.directories names visits
    unfold walk
    refine (materialize_ends site building visits (Placement.beneath_directory inside) short short'
      enclosed (.inl (Placement.not_endsInDot_directory inside site.source_ne_nil fun _ =>
        site.solid))).bind ?_
    rintro _ prepared ⟨building, there, first⟩
    refine (list_ends site building visits).bind ?_
    rintro listing listed ⟨building, same, directories, files⟩
    rw [← same] at there first
    refine (files_ends site building visits there files).bind ?_
    rintro _ copied ⟨building, second, cleared⟩
    let invariant : List (Name × Object) → State → Prop := fun done after =>
      Building task before after ∧
        Evolves (fun _ _ => True) state.fileSystem after.fileSystem ∧
        after.fileSystem.get? (task.place before names) = some .directory ∧
        task.Cleared before names done
    have started : invariant [] copied :=
      ⟨building, first.trans second, second.directory there, cleared⟩
    rw [directories, forM_map]
    refine (ends_forM started fun done found behind split middle kept => ?_).mono ?_ fun _ => id
    · obtain ⟨building, evolves, there, cleared⟩ := kept
      refine (subdirectory_ends site ih building visits deep there split cleared).mono ?_
        fun _ => id
      rintro _ after ⟨building, further, cleared⟩
      exact ⟨building, evolves.trans further, further.directory there, cleared⟩
    · rintro _ after ⟨building, evolves, _, cleared⟩
      exact ⟨building, evolves, cleared.readable site.grounded.wellFormed⟩

end Pass

end TwinTree
