import TwinTree.Proofs.Pass.Pruning
import TwinTree.Proofs.Pass.System

/-!
# Exclusions only remove

With further patterns a pass leaves more out and does nothing else. Where it succeeds without them
it succeeds with them; what it records and warns of comes in the same order, some of it missing, and
it creates and writes nothing that it does not without them (`exclusions_only_remove`). This takes
it that no file has names in both trees (`exclusion_misses_text`).
-/
namespace TwinTree

open FileSystem

/-- The same options with further patterns behind those that they have. -/
def Options.excluding (options : Options) (directories files : List String) : Options :=
  { options with
    excludedDirectories := some (options.excludedDirectories.getD [] ++ directories)
    excludedFiles := some (options.excludedFiles.getD [] ++ files) }

/-- A location where a pass has created something, or has written a file that it reports. -/
def Outcome.Touches (outcome : Outcome) (fs : FileSystem) (location : Location) : Prop :=
  (fs.get? location = none ∧ outcome.fileSystem.get? location ≠ none) ∨
    ∃ report, outcome.result = .ok report ∧
      ∃ record ∈ report.records, fs.prospect record.destination = location

namespace Exclusions

variable {mode : PatternMode} {patterns further : List String} {matchers : List Matcher}
  {given : Option (List String)} {exclusions : Exclusions} {name : List Char}

/-- Patterns that can be read one by one can be read behind others. -/
theorem exists_parseAll?_append (read : parseAll? mode patterns = .ok matchers)
    (compile : ∀ pattern ∈ further, ∃ matcher, Matcher.parse? mode pattern = .ok matcher) :
    ∃ others, parseAll? mode (patterns ++ further) = .ok (matchers ++ others) := by
  induction patterns generalizing matchers with
  | nil =>
    cases read
    rw [List.nil_append]
    induction further with
    | nil => exact ⟨[], rfl⟩
    | cons pattern rest ih =>
      rw [List.forall_mem_cons] at compile
      obtain ⟨⟨matcher, first⟩, later⟩ := compile
      obtain ⟨others, behind⟩ := ih later
      exact ⟨matcher :: others, bind_eq_ok_iff.2 ⟨matcher, first, bind_eq_ok_iff.2
        ⟨others, behind, rfl⟩⟩⟩
  | cons pattern rest ih =>
    obtain ⟨matcher, first, remaining⟩ := bind_eq_ok_iff.1 read
    obtain ⟨behind, later, result⟩ := bind_eq_ok_iff.1 remaining
    cases result
    obtain ⟨others, all⟩ := ih later
    exact ⟨others, bind_eq_ok_iff.2 ⟨matcher, first, bind_eq_ok_iff.2 ⟨behind ++ others, all, rfl⟩⟩⟩

/-- What has been read excludes what one of the patterns accepts; without any patterns it excludes
nothing. -/
theorem exists_matchers (parsed : parse? mode given = .ok exclusions) :
    ∃ matchers, parseAll? mode (given.getD []) = .ok matchers ∧
      ∀ name, exclusions.excludes name = matchers.any (·.accepts name) := by
  match given with
  | none | some [] =>
    cases parsed
    exact ⟨[], rfl, fun _ => rfl⟩
  | some (pattern :: rest) =>
    have parsed : some <$> parseAll? mode (pattern :: rest) = .ok exclusions := parsed
    cases read : parseAll? mode (pattern :: rest) with
    | error reason =>
      rw [read] at parsed
      cases parsed
    | ok matchers =>
      rw [read] at parsed
      cases parsed
      exact ⟨matchers, read, fun _ => rfl⟩

theorem exists_parse?_some (read : parseAll? mode patterns = .ok matchers) :
    ∃ exclusions, parse? mode (some patterns) = .ok exclusions ∧
      ∀ name, exclusions.excludes name = matchers.any (·.accepts name) := by
  cases patterns with
  | nil =>
    cases read
    exact ⟨none, rfl, fun _ => rfl⟩
  | cons pattern rest =>
    refine ⟨some matchers, ?_, fun _ => rfl⟩
    rw [parse?, read]
    · rfl
    · simp

/-- Further patterns that can be read exclude more. -/
theorem exists_parse?_append (parsed : parse? mode given = .ok exclusions)
    (compile : ∀ pattern ∈ further, ∃ matcher, Matcher.parse? mode pattern = .ok matcher) :
    ∃ more, parse? mode (some (given.getD [] ++ further)) = .ok more ∧
      ∀ name, exclusions.excludes name = true → more.excludes name = true := by
  obtain ⟨matchers, read, excludes_eq⟩ := exists_matchers parsed
  obtain ⟨others, all⟩ := exists_parseAll?_append read compile
  obtain ⟨more, parsed', excludes_eq'⟩ := exists_parse?_some all
  refine ⟨more, parsed', fun name excluded => ?_⟩
  rw [excludes_eq', List.any_append, ← excludes_eq, excluded, Bool.true_or]

end Exclusions

namespace Pass

variable {task : Task} {fs : FileSystem} {source twin : Path} {options : Options} {policy : Policy}
  {directories files : List String}

/-- With further patterns that can be read, a task leaves more out. -/
theorem exists_prepare_excluding (prepared : prepare source twin options policy = .ok task)
    (compile : ∀ pattern ∈ directories ++ files, ∃ matcher,
      Matcher.parse? options.patternMode pattern = .ok matcher) :
    ∃ pruned, prepare source twin (options.excluding directories files) policy = .ok pruned ∧
      pruned.Prunes task := by
  obtain ⟨rfl, rfl, rfl, rfl, rules, parsed, parsed'⟩ := eq_of_prepare prepared
  rw [List.forall_mem_append] at compile
  obtain ⟨readDirectories, read, onDirectories⟩ :=
    Exclusions.exists_parse?_append parsed compile.1
  obtain ⟨readFiles, read', onFiles⟩ := Exclusions.exists_parse?_append parsed' compile.2
  refine ⟨{ task with
    options := task.options.excluding directories files
    excludedDirectories := readDirectories
    excludedFiles := readFiles }, ?_, ⟨_, _, _, _, rfl⟩, onDirectories, onFiles⟩
  have same : (task.options.excluding directories files).patternMode =
      task.options.patternMode := rfl
  rw [prepare, same]
  simp only [Options.excluding, read, read', bind, Except.bind, pure, Except.pure]
  rw [rules]

end Pass

variable {fs : FileSystem} {source twin : Path} {options : Options} {policy : Policy}
  {report : Report} {directories files : List String}

/-- With further patterns a pass succeeds where it does without them. Some of the records and
warnings may be missing then, and nothing is created or written that is not without them. -/
theorem exclusions_only_remove (wellFormed : fs.WellFormed) (descends : .parent ∉ twin.components)
    (replaced : PlainRenamings options.renamings) (undisturbed : Undisturbed fs source twin)
    (real : options.dryRun = false)
    (compile : ∀ pattern ∈ directories ++ files, ∃ matcher,
      Matcher.parse? options.patternMode pattern = .ok matcher)
    (succeeded : (deriveWith fs source twin options policy).result = .ok report) :
    ∃ report', (deriveWith fs source twin (options.excluding directories files) policy).result =
        .ok report' ∧
      report'.records.Sublist report.records ∧ report'.warnings.Sublist report.warnings ∧
      ∀ location,
        (deriveWith fs source twin (options.excluding directories files) policy).Touches fs
          location →
        (deriveWith fs source twin options policy).Touches fs location := by
  obtain ⟨after, ended⟩ := exists_run_of_deriveWith succeeded
  obtain ⟨rfl, task, start, ready, stages⟩ := Pass.run_eq_ok_iff.1 ended
  obtain ⟨pruned, further, prunes⟩ := Pass.exists_prepare_excluding stages.prepared compile
  obtain ⟨rfl, rfl, rfl, rfl, _⟩ := Pass.eq_of_prepare stages.prepared
  obtain ⟨rfl, isDirectory, apart, _⟩ := Pass.run_checkArguments_eq_ok_iff.1 stages.checked
  have prepared' := Pass.prepareRoot_meets.of_run stages.rooted
  obtain ⟨_, known⟩ := prepared'.created real
  obtain ⟨grounded, _⟩ :=
    grounded_of_prepared wellFormed (anchored_of_descends wellFormed descends) replaced isDirectory
      apart prepared'
  have sound := sound_of_prepared grounded prepared'
  have nonempty := (checkText_eq_ok_iff.1 (isDirectory_iff.1 isDirectory).1).2.1
  -- Both passes begin to walk in the same state, in which they know only the root of the twin.
  have shadows : Shadows task fs ready ready := by
    refine ⟨sound, sound, .refl sound.wellFormed, .refl _, .refl _, ?_, ?_⟩
    · rintro names ⟨path, member, beneath⟩
      rw [known, List.mem_singleton] at member
      subst member
      exact .inl ((Path.Beneath.refl _).unique beneath).symm
    · exact ⟨task.twin, by simp [known], .refl _⟩
  have visits : task.Visits fs [] := ⟨grounded.source, by simp⟩
  obtain ⟨_, after', walked, along⟩ := Pass.follows_walk_pruned grounded undisturbed real nonempty
    Pass.depthLimit prunes visits shadows (sound.root real).1 () after stages.walked
  have stages' : Pass.Stages fs task.source task.twin (task.options.excluding directories files)
      task.policy pruned { fileSystem := fs } ready after' :=
    { checked := stages.checked
      prepared := further
      rooted := stages.rooted
      walked := walked }
  -- The walk that leaves more out has ended well and within the other one, which is all there is to
  -- a report.
  have within := along.shadows.related
  rw [deriveWith_of_run ended, deriveWith_of_run (Pass.run_eq_ok_iff.2 ⟨rfl, _, _, _, stages'⟩)]
  refine ⟨_, rfl, within.records, within.warnings, ?_⟩
  rintro location (⟨missing, there⟩ | ⟨_, ⟨⟩, record, member, place_eq⟩)
  · exact .inl ⟨missing, fun absent => there ((within.files.developed location).missing absent)⟩
  · exact .inr ⟨_, rfl, record, within.records.subset member, place_eq⟩

/-- Excluding the subdirectory `b` and the names that begin with `l` leaves one file of three. -/
theorem exclusions_only_remove_smallTree : ∃ report report',
    (deriveWith smallTree (.ofString "s") (.ofString "d") {} fun _ => true).result = .ok report ∧
    (deriveWith smallTree (.ofString "s") (.ofString "d") (({} : Options).excluding ["b"] ["l*"])
      fun _ => true).result = .ok report' ∧
    report.records.length = 3 ∧ report'.records.length = 1 ∧
    report'.records.Sublist report.records ∧ report'.warnings.Sublist report.warnings ∧
    ∀ location,
      (deriveWith smallTree (.ofString "s") (.ofString "d") (({} : Options).excluding ["b"] ["l*"])
        fun _ => true).Touches smallTree location →
      (deriveWith smallTree (.ofString "s") (.ofString "d") {} fun _ => true).Touches smallTree
        location := by
  have copies : (deriveWith smallTree (.ofString "s") (.ofString "d") {}
      fun _ => true).result.toOption.map (·.records.length) = some 3 := by
    decide +kernel
  have copies' : (deriveWith smallTree (.ofString "s") (.ofString "d")
      (({} : Options).excluding ["b"] ["l*"]) fun _ => true).result.toOption.map
        (·.records.length) = some 1 := by
    decide +kernel
  have compile : ∀ pattern ∈ ["b"] ++ ["l*"], ∃ matcher,
      Matcher.parse? ({} : Options).patternMode pattern = .ok matcher := by
    simp only [List.cons_append, List.nil_append, List.forall_mem_cons]
    exact ⟨⟨_, rfl⟩, ⟨_, rfl⟩, by simp⟩
  obtain ⟨report, succeeded⟩ := smallTree_succeeds
  obtain ⟨report', succeeded', removed⟩ := exclusions_only_remove (by decide) (by decide)
    (by decide) undisturbed_smallTree rfl compile succeeded
  rw [succeeded] at copies
  rw [succeeded'] at copies'
  exact ⟨report, report', succeeded, succeeded', Option.some.inj copies, Option.some.inj copies',
    removed⟩

/-- Where a file of the source has a name in the twin, a copy that is excluded may be the one that
would have made a text of the file. -/
theorem exclusion_misses_text : linkedTree.WellFormed ∧ .parent ∉ (Path.ofString "d").components ∧
    PlainRenamings ({} : Options).renamings ∧
    Undisturbed linkedTree (.ofString "s") (.ofString "d") ∧
    (∃ matcher, Matcher.parse? ({} : Options).patternMode "a.h" = .ok matcher) ∧
    (deriveIn twoNames linkedTree (.ofString "s") (.ofString "d") {}
      fun _ => true).result.toOption.map (·.copied) = some 2 ∧
    (deriveIn twoNames linkedTree (.ofString "s") (.ofString "d")
        (({} : Options).excluding [] ["a.h"]) fun _ => true).result =
      .error (.fileNotRead (.ofString "s/b.h") "stream did not contain valid UTF-8") := by
  refine ⟨by decide, by decide, by decide, undisturbed_of_not_isLink (by decide), ⟨_, rfl⟩, ?_, ?_⟩
  all_goals decide +kernel

end TwinTree
