import TwinTree.Proofs.Pass.Completion

/-!
# What a pass copies

A pass that succeeds visits exactly the directories of the source that are not left out, each once,
and records exactly the files in them that are selected and have content, each once and in the
order of the walk (`files_enumerated`).
-/
namespace TwinTree

open FileSystem

/-! ### Names that are text -/

/-- All names in the source are well-formed text. -/
def NamesReadable (fs : FileSystem) (source : Path) : Prop :=
  ∀ names object, fs.get? (names ++ fs.prospect source) = some object →
    ∀ name ∈ names, (Utf8.decode? name).isSome = true

theorem namesReadable_of_entries {fs : FileSystem} {source : Path}
    (isText : ∀ entry ∈ fs.entries, ∀ name ∈ entry.1, (Utf8.decode? name).isSome = true) :
    NamesReadable fs source := by
  intro names object found name member
  cases names with
  | nil => cases member
  | cons => exact isText _ (mem_of_find? found) name (List.mem_append_left _ member)

/-- Names that are text are told apart by what they show. -/
theorem eq_of_lossy_eq {first second : Name} (isText : (Utf8.decode? first).isSome = true)
    (isText' : (Utf8.decode? second).isSome = true)
    (same : Utf8.lossy first = Utf8.lossy second) : first = second := by
  obtain ⟨text, decoded⟩ := Option.isSome_iff_exists.1 isText
  obtain ⟨other, decoded'⟩ := Option.isSome_iff_exists.1 isText'
  rw [Utf8.lossy_eq_of_decode? decoded, Utf8.lossy_eq_of_decode? decoded'] at same
  rw [← Utf8.encode_eq_of_decode? decoded, same, Utf8.encode_eq_of_decode? decoded']

theorem comesBefore_of_precedes {first second : Name} (precedes : Precedes first second)
    (isText : (Utf8.decode? first).isSome = true) (isText' : (Utf8.decode? second).isSome = true) :
    comesBefore (Utf8.lossy first) (Utf8.lossy second) = true :=
  comesBefore_of_ne precedes.1 fun same => precedes.2 (eq_of_lossy_eq isText isText' same)

theorem lex_comesBefore_of_lex {first second : List Name} (lex : List.Lex Precedes first second)
    (isText : ∀ name ∈ first, (Utf8.decode? name).isSome = true)
    (isText' : ∀ name ∈ second, (Utf8.decode? name).isSome = true) :
    List.Lex (fun first second => comesBefore (Utf8.lossy first) (Utf8.lossy second)) first
      second := by
  induction lex with
  | nil => exact .nil
  | cons _ ih =>
    rw [List.forall_mem_cons] at isText isText'
    exact .cons (ih isText.2 isText'.2)
  | rel precedes =>
    rw [List.forall_mem_cons] at isText isText'
    exact .rel (comesBefore_of_precedes precedes isText.1 isText'.1)

variable {task : Task} {before : FileSystem} {trails : List (List Name)} {report : Report}
  {after : State} {names trail : List Name} {file : SourceFile}

/-! ### The files of a directory -/

/-- A file has content: it is a regular one, or a link that leads to one. -/
def HasFile (fs : FileSystem) (location : Location) (path : Path) : Prop :=
  ∃ object, fs.get? location = some object ∧ (object.isRegular = true ∨
    object.isLink = true ∧ ∃ target, fs.stat path = .ok target ∧ target.isRegular = true)

theorem Task.mem_taken_iff (wellFormed : before.WellFormed) : file ∈ task.taken before names ↔
    file.names = names ∧
      Selection.ofName task.options task.excludedFiles (Utf8.lossy file.name) = .selected ∧
      HasFile before (file.name :: task.stand before names) (task.path file) := by
  simp only [taken, takenAmong, List.mem_map, List.mem_filter, decide_eq_true_eq,
    task.mem_listed_iff wellFormed, stand_append_singleton]
  constructor
  · rintro ⟨⟨name, object⟩, ⟨⟨standing, same⟩, selected, content⟩, rfl⟩
    refine ⟨rfl, selected, object, standing, ?_⟩
    -- What is listed as a file is a regular file, or a link that is none to a directory.
    cases link : object.isLink with
    | true =>
      exact .inr ⟨rfl, SourceEntry.hasContent_iff.1 content link⟩
    | false =>
      cases object <;> first | exact .inl rfl | cases same | cases link
  · obtain ⟨above, name⟩ := file
    rintro ⟨rfl, selected, object, standing, regular | ⟨link, target, found, regular⟩⟩
    · refine ⟨(name, object), ⟨⟨standing, ?_⟩, selected, fun isLink => ?_⟩, rfl⟩
      · cases object <;> first | rfl | cases regular
      · have plain : object.isLink = false := by cases object <;> first | rfl | cases regular
        cases isLink.symm.trans plain
    · have content : (SourceEntry.ofEntry (task.source.extend above) (name, object)).HasContent
          before :=
        SourceEntry.hasContent_iff.2 fun _ => ⟨target, found, regular⟩
      refine ⟨(name, object), ⟨⟨standing, ?_⟩, selected, content⟩, rfl⟩
      -- A link that leads to a file does not lead to a directory.
      have noDirectory : before.isDirectory (task.path ⟨above, name⟩) = false := by
        rw [isDirectory, found]
        cases target <;> first | rfl | cases regular
      cases object <;> first | exact if_neg (Bool.eq_false_iff.1 noDirectory) | cases link

theorem Task.taken_pairwise (wellFormed : before.WellFormed) :
    (task.taken before names).Pairwise fun first second => Precedes first.name second.name := by
  rw [taken, takenAmong, List.pairwise_map]
  exact (task.listed_pairwise wellFormed names .file).sublist List.filter_sublist

/-- A file that is copied is beneath the source by its names. -/
theorem Task.beneath_of_mem_taken (wellFormed : before.WellFormed)
    (taken : file ∈ task.taken before names) :
    Path.Beneath (task.path file) task.source (file.names ++ [file.name]) := by
  obtain ⟨rfl, _, object, standing, _⟩ := (task.mem_taken_iff wellFormed).1 taken
  have plain := wellFormed.isPlain standing
  rw [List.forall_mem_cons] at plain
  have inside : Path.Beneath (task.source.extend file.names) task.source file.names :=
    .extend fun name within => plain.2 name (by simp [Task.stand, within])
  exact inside.join plain.1

/-- What is copied is no directory. -/
theorem Task.exists_standing_of_mem_taken (wellFormed : before.WellFormed)
    (taken : file ∈ task.taken before names) :
    ∃ object, before.get? (file.name :: task.stand before file.names) = some object ∧
      object.isDirectory = false := by
  obtain ⟨rfl, _, object, standing, content⟩ := (task.mem_taken_iff wellFormed).1 taken
  refine ⟨object, standing, ?_⟩
  rcases content with regular | ⟨link, _⟩
  · cases object <;> first | rfl | cases regular
  · cases object <;> first | rfl | cases link

/-- Files are told apart by the components of their paths. -/
theorem SourceFile.eq_of_components_eq {other : SourceFile}
    (beneath : Path.Beneath (task.path file) task.source (file.names ++ [file.name]))
    (beneath' : Path.Beneath (task.path other) task.source (other.names ++ [other.name]))
    (same : (task.path file).components = (task.path other).components) : file = other := by
  have alike : Path.Beneath (task.path file) task.source (other.names ++ [other.name]) :=
    ⟨beneath'.plain, same.trans beneath'.components_eq⟩
  obtain ⟨names_eq, name_eq⟩ := List.append_inj' (beneath.unique alike) rfl
  cases file
  cases other
  exact congr (congrArg SourceFile.mk names_eq) (List.singleton_inj.1 name_eq)

/-! ### A whole pass -/

namespace Completed

theorem standing (completed : Completed task before trails report after) (member : trail ∈ trails) :
    before.get? (task.stand before trail) = some .directory := (completed.mem_iff.1 member).1

theorem mem_files_iff (completed : Completed task before trails report after) :
    file ∈ trails.flatMap (task.taken before) ↔
      file.names ∈ trails ∧ file ∈ task.taken before file.names := by
  rw [List.mem_flatMap]
  constructor
  · rintro ⟨trail, member, taken⟩
    obtain ⟨rfl, _⟩ := (task.mem_taken_iff completed.grounded.wellFormed).1 taken
    exact ⟨member, taken⟩
  · rintro ⟨member, taken⟩
    exact ⟨file.names, member, taken⟩

theorem beneath (completed : Completed task before trails report after)
    (member : file ∈ trails.flatMap (task.taken before)) :
    Path.Beneath (task.path file) task.source (file.names ++ [file.name]) :=
  task.beneath_of_mem_taken completed.grounded.wellFormed (completed.mem_files_iff.1 member).2

theorem trails_nodup (completed : Completed task before trails report after) : trails.Nodup := by
  refine completed.tour.sorted.imp fun {first second} earlier same => ?_
  exact (earlier.imp fun _ _ precedes => precedes.2).to_ne same

theorem files_nodup (completed : Completed task before trails report after) :
    (trails.flatMap (task.taken before)).Nodup := by
  have wellFormed := completed.grounded.wellFormed
  refine List.nodup_flatMap.2 ⟨fun trail _ => ?_, ?_⟩
  · exact (task.taken_pairwise wellFormed).imp fun precedes same => precedes.2 (congrArg _ same)
  · refine completed.trails_nodup.imp fun different file isFirst isSecond => different ?_
    obtain ⟨rfl, _⟩ := (task.mem_taken_iff wellFormed).1 isFirst
    exact ((task.mem_taken_iff wellFormed).1 isSecond).1

/-- No two records are of one file. -/
theorem sources_nodup (completed : Completed task before trails report after) :
    (report.records.map fun record => record.source.components).Nodup := by
  rw [completed.records_eq, List.map_map]
  exact completed.files_nodup.map_on fun first isFirst second isSecond same =>
    SourceFile.eq_of_components_eq (completed.beneath isFirst) (completed.beneath isSecond) same

theorem records_eq_flatMap (completed : Completed task before trails report after) :
    report.records = trails.flatMap fun trail =>
      ((task.taken before trail).map SourceFile.name).map fun name =>
        task.record ⟨trail, name⟩ := by
  rw [completed.records_eq, List.map_flatMap]
  refine List.flatMap_congr fun trail _ => ?_
  rw [List.map_map]
  refine List.map_congr_left fun file member => ?_
  obtain ⟨rfl, _⟩ := (task.mem_taken_iff completed.grounded.wellFormed).1 member
  rfl

end Completed

/-- What a task visits, given by the names below the source, and the records it makes of the files
there. -/
structure Enumerates (task : Task) (fs : FileSystem) (home : Location)
    (trails : List (List Name)) (files : List Name → List Name) (report : Report) : Prop where
  visited_iff : ∀ trail, trail ∈ trails ↔
    fs.get? (trail.reverse ++ home) = some .directory ∧ ∀ name ∈ trail,
      isVersionControl (Utf8.lossy name) = false ∧
        task.excludedDirectories.excludes (Utf8.lossy name) = false
  visited_sorted : trails.Pairwise
    (List.Lex fun first second => comesBefore (Utf8.lossy first) (Utf8.lossy second))
  files_iff : ∀ trail ∈ trails, ∀ name, name ∈ files trail ↔
    Selection.ofName task.options task.excludedFiles (Utf8.lossy name) = .selected ∧
      HasFile fs (name :: (trail.reverse ++ home)) ((task.source.extend trail).join ⟨name⟩)
  files_sorted : ∀ trail ∈ trails, (files trail).Pairwise
    fun first second => comesBefore (Utf8.lossy first) (Utf8.lossy second)
  records_eq : report.records = trails.flatMap fun trail => (files trail).map fun name =>
    { source := (task.source.extend trail).join ⟨name⟩
      destination := Placement.file task.source task.twin task.options.renamings
        ((task.source.extend trail).join ⟨name⟩)
      stripped := task.policy (task.source.extend trail) }
  sources_nodup : (report.records.map fun record => record.source.components).Nodup
  sheltered : ∀ record ∈ report.records, ∃ names name,
    Path.Beneath record.source task.source (names ++ [name]) ∧ ∀ directory ∈ names,
      isVersionControl (Utf8.lossy directory) = false ∧
        task.excludedDirectories.excludes (Utf8.lossy directory) = false

/-- A pass that succeeds, a dry one or a real one, visits the directories of the source that are
not left out and records the files in them that are selected, each once and in order. -/
theorem files_enumerated {fs : FileSystem} {source twin : Path} {options : Options}
    {policy : Policy} (wellFormed : fs.WellFormed) (readable : NamesReadable fs source)
    (descends : .parent ∉ twin.components) (replaced : PlainRenamings options.renamings)
    (undisturbed : Undisturbed fs source twin)
    (succeeded : (deriveWith fs source twin options policy).result = .ok report) :
    ∃ task home trails files after,
      Pass.prepare source twin options policy = .ok task ∧
      fs.canonicalize source = .ok home ∧
      EStateM.run (Pass.runTraced source twin options policy) { fileSystem := fs } =
        .ok (trails.map source.extend, report) after ∧
      Enumerates task fs home trails files report := by
  obtain ⟨task, trails, after, prepared, traced, _, completed⟩ :=
    exists_completed wellFormed descends replaced undisturbed succeeded
  obtain ⟨rfl, rfl, rfl, rfl, _⟩ := Pass.eq_of_prepare prepared
  -- Names that are text are shown as they are, so the two orders of names agree.
  have isText : ∀ trail ∈ trails, ∀ name ∈ trail, (Utf8.decode? name).isSome = true :=
    fun trail member name within =>
      readable _ _ (completed.standing member) name (List.mem_reverse.2 within)
  refine ⟨task, task.home fs, trails, fun trail => (task.taken fs trail).map SourceFile.name, after,
    prepared, completed.found, traced, ?_⟩
  constructor
  case visited_iff => exact fun trail => completed.mem_iff
  case visited_sorted =>
    refine completed.tour.sorted.imp_of_mem fun {first second} isFirst isSecond lex => ?_
    exact lex_comesBefore_of_lex lex (isText first isFirst) (isText second isSecond)
  case files_iff =>
    intro trail _ name
    rw [List.mem_map]
    constructor
    · rintro ⟨file, taken, rfl⟩
      obtain ⟨rfl, selected, content⟩ := (task.mem_taken_iff wellFormed).1 taken
      exact ⟨selected, content⟩
    · rintro ⟨selected, content⟩
      exact ⟨⟨trail, name⟩, (task.mem_taken_iff wellFormed).2 ⟨rfl, selected, content⟩, rfl⟩
  case files_sorted =>
    intro trail _
    have isText' : ∀ file ∈ task.taken fs trail, (Utf8.decode? file.name).isSome = true := by
      intro file taken
      obtain ⟨_, _, object, standing, _⟩ := (task.mem_taken_iff wellFormed).1 taken
      exact readable (file.name :: trail.reverse) object standing file.name List.mem_cons_self
    refine List.pairwise_map.2 ((task.taken_pairwise wellFormed).imp_of_mem ?_)
    intro first second isFirst isSecond precedes
    exact comesBefore_of_precedes precedes (isText' first isFirst) (isText' second isSecond)
  case records_eq => exact completed.records_eq_flatMap
  case sources_nodup => exact completed.sources_nodup
  case sheltered =>
    intro record member
    rw [completed.records_eq] at member
    obtain ⟨file, within, rfl⟩ := List.mem_map.1 member
    have visited := (completed.mem_files_iff.1 within).1
    exact ⟨file.names, file.name, completed.beneath within, (completed.mem_iff.1 visited).2⟩

theorem readable_smallTree : NamesReadable smallTree (.ofString "s") :=
  namesReadable_of_entries (by decide)

theorem files_enumerated_smallTree : ∃ report,
    (deriveWith smallTree (.ofString "s") (.ofString "d") {} fun _ => true).result = .ok report ∧
    ∃ task home trails files after,
      Pass.prepare (.ofString "s") (.ofString "d") {} (fun _ => true) = .ok task ∧
      smallTree.canonicalize (.ofString "s") = .ok home ∧
      EStateM.run (Pass.runTraced (.ofString "s") (.ofString "d") {} fun _ => true)
        { fileSystem := smallTree } =
          .ok (trails.map (Path.ofString "s").extend, report) after ∧
      Enumerates task smallTree home trails files report := by
  obtain ⟨report, succeeded⟩ := smallTree_succeeds
  refine ⟨report, succeeded, ?_⟩
  exact files_enumerated (by decide) readable_smallTree (by decide) (by decide)
    undisturbed_smallTree succeeded

end TwinTree
