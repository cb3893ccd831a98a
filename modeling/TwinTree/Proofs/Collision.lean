import TwinTree.Proofs.Pass.Catalog
import TwinTree.Proofs.Reproduction

/-!
# Copies that collide

A pass writes over what it finds, so a copy is lost when a later file has the same place in the
twin. With the standard renamings that happens to files of one directory only: two names that are
shown alike, two that become the umbrella header, or two that become the main file
(`rename_eq_iff`). Everything else is told apart, and a copy that no later one replaces is there in
the end (`copies_told_apart`).
-/
namespace TwinTree

open FileSystem

/-! ### Names that become one -/

/-- A file with this name is the umbrella header of the twin. -/
def BecomesUmbrella (name : List Char) : Prop :=
  "hazel.h".toList <:+ name ∨ name = "HazelInternalTests.h".toList

/-- A file with this name is the main file of the twin. -/
def BecomesMain (name : List Char) : Prop := "maininternaltests.c".toList <:+ name

/-- The twin has one name for the two. -/
def Merge (name other : List Char) : Prop :=
  name = other ∨ (BecomesUmbrella name ∧ BecomesUmbrella other) ∨
    (BecomesMain name ∧ BecomesMain other)

variable {name other : List Char}

/-- No name ends in both of two suffixes that differ at their ends. -/
theorem not_main_of_umbrella (ends : "hazel.h".toList <:+ name) :
    ¬ "maininternaltests.c".toList <:+ name := by
  intro main
  -- Two ends of one name are ends of each other, and these two are not.
  rcases List.suffix_or_suffix_of_suffix ends main with inside | inside
  · revert inside
    decide
  · revert inside
    decide

theorem rename_eq_umbrella_iff :
    Renaming.rename ({} : Options).renamings name = "HazelInternalTests.h".toList ↔
      BecomesUmbrella name := by
  rw [rename_standard, BecomesUmbrella]
  split
  next umbrella => exact iff_of_true rfl (.inl umbrella)
  next noUmbrella =>
    split
    next main =>
      refine iff_of_false (by decide) ?_
      rintro (umbrella | rfl)
      · exact noUmbrella umbrella
      · revert main
        decide
    next => exact (or_iff_right noUmbrella).symm

/-- The main file has its name from a renaming unless it was called so. -/
theorem rename_eq_main_iff (unskipped : ¬ "main.c".toList <:+ name) :
    Renaming.rename ({} : Options).renamings name = "main.c".toList ↔ BecomesMain name := by
  rw [rename_standard]
  split
  next umbrella => exact iff_of_false (by decide) (not_main_of_umbrella umbrella)
  next =>
    split
    next main => exact iff_of_true rfl main
    next noMain =>
      refine iff_of_false ?_ noMain
      rintro rfl
      exact unskipped (List.suffix_refl _)

theorem rename_eq_self (noUmbrella : ¬ BecomesUmbrella name) (noMain : ¬ BecomesMain name) :
    Renaming.rename ({} : Options).renamings name = name := by
  rw [rename_standard, if_neg fun ends => noUmbrella (.inl ends)]
  exact if_neg noMain

/-- The names that the standard renamings make one are those that merge. -/
theorem rename_eq_iff (unskipped : ¬ "main.c".toList <:+ name)
    (unskipped' : ¬ "main.c".toList <:+ other) :
    Renaming.rename ({} : Options).renamings name =
        Renaming.rename ({} : Options).renamings other ↔ Merge name other := by
  constructor
  · intro same
    by_cases umbrella : BecomesUmbrella name
    · have becomes := same.symm.trans (rename_eq_umbrella_iff.2 umbrella)
      exact .inr (.inl ⟨umbrella, rename_eq_umbrella_iff.1 becomes⟩)
    by_cases main : BecomesMain name
    · have becomes := same.symm.trans ((rename_eq_main_iff unskipped).2 main)
      exact .inr (.inr ⟨main, (rename_eq_main_iff unskipped').1 becomes⟩)
    -- A name that is kept is that of the other file, so the other one is kept too.
    rw [rename_eq_self umbrella main] at same
    have noUmbrella : ¬ BecomesUmbrella other := fun becomes =>
      umbrella (.inr (same.trans (rename_eq_umbrella_iff.2 becomes)))
    have noMain : ¬ BecomesMain other := fun becomes => unskipped <| by
      rw [same, (rename_eq_main_iff unskipped').2 becomes]
    exact .inl (same.trans (rename_eq_self noUmbrella noMain))
  · rintro (rfl | ⟨umbrella, umbrella'⟩ | ⟨main, main'⟩)
    · rfl
    · rw [rename_eq_umbrella_iff.2 umbrella, rename_eq_umbrella_iff.2 umbrella']
    · rw [(rename_eq_main_iff unskipped).2 main, (rename_eq_main_iff unskipped').2 main']

/-- A file that is selected is not called like a main file. -/
theorem not_main_of_selected {suffixes : List String} {excluded : Exclusions}
    (selected : Selection.ofName { strippedSuffixes := suffixes } excluded name = .selected) :
    ¬ "main.c".toList <:+ name := by
  intro ends
  have skipped : endsInOneOf name ["main.c"] = true :=
    List.any_eq_true.2 ⟨_, List.mem_singleton_self _, List.isSuffixOf_iff_suffix.2 ends⟩
  unfold Selection.ofName at selected
  simp only [skipped, Bool.true_or, if_true] at selected
  split at selected <;> cases selected

/-! ### Records that collide -/

/-- Two records are of files in one directory of the source, whose names merge. -/
def Record.Collide (source : Path) (first second : Record) : Prop :=
  ∃ names name other, Path.Beneath first.source source (names ++ [name]) ∧
    Path.Beneath second.source source (names ++ [other]) ∧
    Merge (Utf8.lossy name) (Utf8.lossy other)

section

variable {task : Task} {file file' : SourceFile}

theorem Task.Lists.beneath (lists : task.Lists file) :
    Path.Beneath (task.path file) task.source (file.names ++ [file.name]) := by
  have plain := List.forall_mem_append.1 lists.plain
  exact (Path.Beneath.extend plain.1).join (plain.2 _ (List.mem_singleton_self _))

/-- Files have one destination when they have one directory and one name in the twin. -/
theorem Task.Lists.same_iff (replaced : PlainRenamings task.options.renamings)
    (lists : task.Lists file) (lists' : task.Lists file') :
    (task.record file).destination.Same (task.record file').destination ↔
      file.names = file'.names ∧
        Renaming.rename task.options.renamings (Utf8.lossy file.name) =
          Renaming.rename task.options.renamings (Utf8.lossy file'.name) := by
  have placed : Path.Beneath (task.record file).destination task.twin
      (file.names ++ [Placement.fileName task.options.renamings file.name]) :=
    Placement.beneath_file replaced lists.beneath
  have placed' : Path.Beneath (task.record file').destination task.twin
      (file'.names ++ [Placement.fileName task.options.renamings file'.name]) :=
    Placement.beneath_file replaced lists'.beneath
  -- The names in the twin are bytes, the renamed names are text.
  rw [← Utf8.encode_inj]
  constructor
  · intro same
    have names_eq := placed.unique ⟨placed'.plain, same.trans placed'.components_eq⟩
    exact List.append_singleton_inj.1 names_eq
  · rintro ⟨names_eq, name_eq⟩
    have same : Placement.fileName task.options.renamings file.name =
        Placement.fileName task.options.renamings file'.name := name_eq
    rw [names_eq, same] at placed
    exact placed.components_eq.trans placed'.components_eq.symm

theorem Task.Lists.collide_iff (lists : task.Lists file) (lists' : task.Lists file') :
    (task.record file).Collide task.source (task.record file') ↔
      file.names = file'.names ∧ Merge (Utf8.lossy file.name) (Utf8.lossy file'.name) := by
  constructor
  · rintro ⟨names, name, other, beneath, beneath', merge⟩
    obtain ⟨rfl, rfl⟩ := List.append_singleton_inj.1 (lists.beneath.unique beneath)
    obtain ⟨same, rfl⟩ := List.append_singleton_inj.1 (lists'.beneath.unique beneath')
    exact ⟨same.symm, merge⟩
  · rintro ⟨same, merge⟩
    exact ⟨file.names, file.name, file'.name, lists.beneath, same ▸ lists'.beneath, merge⟩

end

/-- With the standard renamings, the destinations that a real pass reports are the same only for
files of one directory whose names merge, and all files that are counted are reported. Where
the twin is out of the way, the copy of each file is there unless a later one has its place. -/
theorem copies_told_apart {fs : FileSystem} {source twin : Path} {suffixes : List String}
    {policy : Policy} {report : Report} (wellFormed : fs.WellFormed)
    (succeeded : (deriveWith fs source twin { strippedSuffixes := suffixes } policy).result =
      .ok report) :
    (∀ first ∈ report.records, ∀ second ∈ report.records,
      first.destination.Same second.destination ↔ first.Collide source second) ∧
    report.copied = report.records.length ∧
    (.parent ∉ twin.components → Undisturbed fs source twin →
      ∀ front record behind, report.records = front ++ record :: behind →
        (∀ later ∈ behind, ¬ later.destination.Same record.destination) →
        CopiedWhole source twin { strippedSuffixes := suffixes } policy fs
          (deriveWith fs source twin { strippedSuffixes := suffixes } policy).fileSystem
          record) := by
  have standard : PlainRenamings ({ strippedSuffixes := suffixes } : Options).renamings :=
    (by decide : PlainRenamings ({} : Options).renamings)
  refine ⟨?apart, ?counted, ?present⟩
  case apart =>
    obtain ⟨task, prepared, listed, _⟩ := catalogued_of_deriveWith wellFormed succeeded
    obtain ⟨rfl, rfl, options_eq, rfl, _⟩ := Pass.eq_of_prepare prepared
    intro first isFirst second isSecond
    obtain ⟨file, lists, rfl⟩ := listed first isFirst
    obtain ⟨file', lists', rfl⟩ := listed second isSecond
    rw [lists.same_iff (options_eq ▸ standard) lists', lists.collide_iff lists']
    -- Names that are selected are no main files, which the renamings could have made one with
    -- another.
    have selected := lists.selected
    have selected' := lists'.selected
    rw [options_eq] at selected selected' ⊢
    exact and_congr_right fun _ =>
      rename_eq_iff (not_main_of_selected selected) (not_main_of_selected selected')
  case counted =>
    obtain ⟨_, _, _, counted⟩ := catalogued_of_deriveWith wellFormed succeeded
    exact counted rfl
  case present =>
    intro descends undisturbed front record behind split last
    obtain ⟨task, trails, after, prepared, _, files_eq, completed⟩ :=
      exists_completed wellFormed descends standard undisturbed succeeded
    obtain ⟨rfl, rfl, options_eq, rfl, rules_eq, _⟩ := Pass.eq_of_prepare prepared
    have real : task.options.dryRun = false := options_eq ▸ rfl
    obtain ⟨file, member, rfl, filled⟩ := completed.exists_filled real split last
    rw [← options_eq] at rules_eq
    rw [files_eq, ← options_eq]
    exact .of_filled completed.progress.sound real rules_eq (completed.beneath member) filled

theorem copies_told_apart_smallTree : ∃ report,
    (deriveWith smallTree (.ofString "s") (.ofString "d") {} fun _ => true).result = .ok report ∧
    (∀ first ∈ report.records, ∀ second ∈ report.records,
      first.destination.Same second.destination ↔ first.Collide (.ofString "s") second) ∧
    report.copied = report.records.length ∧
    (∀ front record behind, report.records = front ++ record :: behind →
      (∀ later ∈ behind, ¬ later.destination.Same record.destination) →
      CopiedWhole (.ofString "s") (.ofString "d") {} (fun _ => true) smallTree
        (deriveWith smallTree (.ofString "s") (.ofString "d") {} fun _ => true).fileSystem
        record) := by
  obtain ⟨report, succeeded⟩ := smallTree_succeeds
  obtain ⟨apart, counted, present⟩ := copies_told_apart (by decide) succeeded
  exact ⟨report, succeeded, apart, counted, present (by decide) undisturbed_smallTree⟩

/-! ### Copies that are lost -/

/-- A file system with certain entries, each at the end of the names that lead to it. -/
def treeOf (entries : List (List String × Object)) : FileSystem where
  entries := entries.map fun (names, object) =>
    ((names.map fun name => Utf8.encode name.toList).reverse, object)
  workingDirectory := []

/-- A source with two files that become the umbrella header. -/
def umbrellaTree : FileSystem :=
  treeOf
    [(["s"], .directory),
     (["s", "hazel.h"], .file [0x31] 0o644),
     (["s", "xhazel.h"], .file [0x32] 0o644)]

/-- A source with two links to a file that the twin writes over. -/
def twinLinkedTree : FileSystem :=
  treeOf
    [(["d"], .directory),
     (["d", "a.h"], .file [0x31] 0o644),
     (["s"], .directory),
     (["s", "0.h"], .link (Utf8.encode "../d/a.h".toList)),
     (["s", "a.h"], .file [0x32] 0o644),
     (["s", "b.h"], .link (Utf8.encode "../d/a.h".toList))]

/-- A source that a twin whose path goes up turns out to hold. -/
def ascendingTree : FileSystem :=
  treeOf
    [(["p"], .directory),
     (["p", "s"], .directory),
     (["p", "s", "a"], .directory),
     (["p", "s", "a", "x.h"], .file [0x31] 0o644),
     (["p", "s", "s"], .directory),
     (["p", "s", "s", "a"], .directory),
     (["p", "s", "s", "a", "x.h"], .file [0x32] 0o644),
     (["p", "s", "s", "t"], .directory),
     (["p", "s", "s", "t", "x.h"], .file [0x32] 0o644),
     (["p", "s", "t"], .directory),
     (["p", "s", "t", "x.h"], .file [0x31] 0o644)]

/-- The content of the file that a path leads to. -/
def contentAt (fs : FileSystem) (path : String) : Option (List UInt8) :=
  match fs.stat (.ofString path) with
  | .ok (.file content _) => some content
  | _ => none

/-- The ways in which a pass that succeeds leaves no copy of a file: another file has its place, two
copies of one file differ because the pass has changed it between them, or the twin is made
over the source. -/
theorem copies_lost :
    (let ended := derive umbrellaTree (.ofString "s") (.ofString "d") {};
      umbrellaTree.WellFormed ∧
      ended.result.toOption.map (fun report => (report.copied, report.records)) = some (2,
        [⟨.ofString "s/hazel.h", .ofString "d/HazelInternalTests.h", false⟩,
          ⟨.ofString "s/xhazel.h", .ofString "d/HazelInternalTests.h", false⟩]) ∧
      contentAt umbrellaTree "s/hazel.h" = some [0x31] ∧
      contentAt ended.fileSystem "d/HazelInternalTests.h" = some [0x32]) ∧
    (let ended := derive twinLinkedTree (.ofString "s") (.ofString "d") {};
      twinLinkedTree.WellFormed ∧
      ended.result.toOption.map (fun report => report.records.map (·.destination)) =
        some [.ofString "d/0.h", .ofString "d/a.h", .ofString "d/b.h"] ∧
      twinLinkedTree.canonicalize (.ofString "s/0.h") =
        twinLinkedTree.canonicalize (.ofString "s/b.h") ∧
      contentAt ended.fileSystem "d/0.h" ≠ contentAt ended.fileSystem "d/b.h") ∧
    (let ended := derive ascendingTree (.ofString "p/s") (.ofString "x/../p") {};
      ascendingTree.WellFormed ∧
      ended.result.isOk = true ∧
      contentAt ascendingTree "p/s/t/x.h" = some [0x31] ∧
      contentAt ended.fileSystem "p/t/x.h" = some [0x32] ∧
      contentAt ended.fileSystem "p/s/a/x.h" = some [0x32] ∧
      contentAt ended.fileSystem "p/a/x.h" = some [0x31]) := by
  refine ⟨?umbrella, ?linked, ?ascending⟩
  all_goals decide +kernel

end TwinTree
