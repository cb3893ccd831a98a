import TwinTree.Proofs.FileSystem.Outline
import TwinTree.Proofs.Pass.Stability
import TwinTree.Proofs.Pass.Unison

/-!
# Walks under two policies

A policy decides what is written into a file, and nothing that a walk asks for shows it: two walks
that differ in their policies stay alike (`Matching`), up to the outline of their file systems and
what their reports say about stripping. Only reading a text looks into a file, and what is read is
the source, which neither of them changes. So the walks end alike (`walk_together`), also where they
fail.
-/
namespace TwinTree

open FileSystem

/-- What a report says, except about stripping. -/
def Report.withoutStripping (report : Report) : Report :=
  { report with
    stripped := 0
    records := report.records.map fun record => { record with stripped := false } }

def Journal.withoutStripping (journal : Journal) : Journal :=
  { journal with report := journal.report.withoutStripping }

/-- States that can be told apart only by looking into files and for what has been stripped. -/
structure Matching (state state' : State) : Prop where
  outline : state'.fileSystem.outline = state.fileSystem.outline
  known : state'.materialized = state.materialized
  journal : state'.journal.withoutStripping = state.journal.withoutStripping

/-- Journals that differ only in what they say about stripping. -/
def Journal.AlikeButStripping (journal journal' : Journal) : Prop :=
  journal'.withoutStripping = journal.withoutStripping

theorem matching_iff {state state' : State} :
    Matching state state' ↔ Attuned SameOutline Journal.AlikeButStripping state state' :=
  ⟨fun ⟨outline, known, journal⟩ => ⟨outline, known, journal⟩,
    fun ⟨outline, known, journal⟩ => ⟨outline, known, journal⟩⟩

theorem Matching.refl (state : State) : Matching state state := ⟨rfl, rfl, rfl⟩

namespace Pass

variable {task : Task} {policy : Policy} {before : FileSystem} {state state' : State}
  {directory : Path} {names : List Name}

/-- No step notes anything else about stripping than the policy says. -/
theorem unison_under (task : Task) (policy : Policy) :
    Unison task policy SameOutline (fun _ _ => True) Journal.AlikeButStripping where
  likeness := likeness_sameOutline
  adapted _ _ := trivial
  routine {change journal journal'} routine same := by
    cases routine with
    | scanned => exact congrArg (·.count .addScanned) same
    | matched => exact congrArg (·.count .addMatched) same
    | skipped => exact congrArg (·.count .addSkipped) same
    | note level message => exact congrArg (·.note level message) same
    | warn warning => exact congrArg (·.warn warning) same
  directory {journal journal'} same := by
    have same : journal'.withoutStripping = journal.withoutStripping := same
    exact congrArg (·.count .addDirectory) same
  planned {journal journal'} path destination directory same := by
    have split : ∀ (journal : Journal) stripping,
        (journal.count (·.addPlanned ⟨path, destination, stripping⟩)).withoutStripping =
          journal.withoutStripping.count (·.addPlanned ⟨path, destination, false⟩) := by
      simp [Journal.count, Journal.withoutStripping, Report.withoutStripping, Report.addPlanned]
    rw [Journal.AlikeButStripping, split, split, same]
  copied {journal journal'} path destination directory same := by
    have split : ∀ (journal : Journal) stripping,
        (journal.count (·.addCopied ⟨path, destination, stripping⟩)).withoutStripping =
          journal.withoutStripping.count (·.addCopied ⟨path, destination, false⟩) := by
      simp [Journal.count, Journal.withoutStripping, Report.withoutStripping, Report.addCopied]
    rw [Journal.AlikeButStripping, split, split, same]

/-! ### Listing -/

theorem kind_eq_of_sameOutline {fs other : FileSystem} (same : SameOutline fs other) (path : Path)
    {object object' : Object} (outlines : object'.outline = object.outline) :
    SourceEntry.kind other path object' = SourceEntry.kind fs path object := by
  rw [Object.outline_eq_through, Object.outline_eq_through] at outlines
  rw [sameOutline_eq] at same
  exact SourceEntry.kind_eq_of_seenAlike same path outlines

variable {Notes : Journal → Journal → Prop}

theorem classify_together {Contents : List UInt8 → List UInt8 → Prop}
    {entries entries' : List (Name × Object)}
    (unison : Unison task policy SameOutline Contents Notes)
    (alike : Attuned SameOutline Notes state state')
    (same : entries'.map (fun found => (found.1, found.2.outline)) =
      entries.map fun found => (found.1, found.2.outline)) :
    Together (classify directory entries) (classify directory entries') state state'
      (fun _ => Attuned SameOutline Notes) (Attuned SameOutline Notes) := by
  induction entries generalizing entries' state state' with
  | nil =>
    obtain rfl := List.map_eq_nil_iff.1 same
    exact together_pure alike
  | cons found rest ih =>
    obtain ⟨_, object⟩ := found
    obtain ⟨⟨name, object'⟩, rest', rfl, first, others⟩ := List.map_eq_cons_iff.1 same
    simp only [Prod.mk.injEq] at first
    obtain ⟨rfl, outlines⟩ := first
    have links : object'.isLink = object.isLink := by
      rw [← object'.isLink_outline, outlines, object.isLink_outline]
    unfold classify
    refine together_fileSystem_bind ?_
    rw [kind_eq_of_sameOutline alike.files _ outlines, links]
    cases SourceEntry.kind state.fileSystem (directory.join ⟨name⟩) object with
    | special =>
      refine together_modify_bind ?_
      exact ih (unison.take alike (.warn _)) others
    | _ =>
      refine (ih alike others).bind fun _ _ _ alike => ?_
      exact together_pure alike

theorem list_together {Contents : List UInt8 → List UInt8 → Prop}
    (unison : Unison task policy SameOutline Contents Notes)
    (alike : Attuned SameOutline Notes state state') :
    Together (list directory) (list directory) state state' (fun _ => Attuned SameOutline Notes)
      (Attuned SameOutline Notes) := by
  have same : state.fileSystem.outline.readDirectory directory = _ :=
    readDirectory_outline directory
  rw [← show state'.fileSystem.outline = state.fileSystem.outline from alike.files,
    readDirectory_outline] at same
  unfold list
  refine together_ask_bind same (fun entries entries' _ _ same => ?_) alike
  refine (classify_together unison alike same).bind fun _ _ _ alike => ?_
  exact together_pure alike

/-! ### A whole walk -/

/-- What a walk takes for granted does not depend on its policy. -/
theorem grounded_under (grounded : Grounded task before) (policy : Policy) :
    Grounded (task.under policy) before where
  wellFormed := grounded.wellFormed
  anchored := grounded.anchored
  replaced := grounded.replaced
  source := grounded.source
  leads := grounded.leads
  apart := grounded.apart

/-- The states of two walks under different policies. -/
structure Abreast (task : Task) (policy : Policy) (before : FileSystem) (state state' : State) :
    Prop where
  alike : Matching state state'
  ahead : Sound task before state
  behind : Sound (task.under policy) before state'

theorem duet_under (grounded : Grounded task before)
    (undisturbed : Undisturbed before task.source task.twin) (policy : Policy) :
    Duet task policy before SameOutline (fun _ _ => True) Journal.AlikeButStripping
      (Sound (task.under policy) before) := by
  have grounded' := grounded_under grounded policy
  constructor
  case toUnison => exact unison_under task policy
  case grounded => exact grounded
  case lists => exact fun alike _ _ _ => list_together (unison_under task policy) alike
  case reads =>
    -- Both read what was in the source at the start.
    intro state state' directory names name object _ ahead behind beneath standing
    rw [task.stand_append_singleton] at standing
    rw [readText, readText, ahead.stat_eq grounded undisturbed beneath standing,
      behind.stat_eq grounded' undisturbed beneath standing]
  case quiet => exact fun quiet behind => quiet.sound behind
  case materializes =>
    intro state path names behind enclosed beneath
    exact (materialize_meets grounded' behind enclosed beneath).mono
      (fun _ _ kept => kept.1.sound) fun _ _ => trivial
  case copies =>
    intro state directory names name object behind standing noDirectory beneath
    exact (copy_meets grounded' behind standing noDirectory beneath).mono
      (fun _ _ copied => copied.sound) fun _ _ => trivial

/-- Two walks that differ in their policies end alike, also when they fail. -/
theorem walk_together {depth : Nat} (grounded : Grounded task before)
    (undisturbed : Undisturbed before task.source task.twin)
    (abreast : Abreast task policy before state state')
    (beneath : Path.Beneath directory task.source names)
    (standing : before.get? (task.stand before names) = some .directory) :
    Together (walk task depth directory) (walk (task.under policy) depth directory) state state'
      (fun _ => Abreast task policy before) Matching := by
  refine Together.mono ((duet_under grounded undisturbed policy).walk
    ⟨matching_iff.1 abreast.alike, abreast.ahead, abreast.behind⟩ beneath standing)
    (fun _ after after' paired => ?_) fun _ _ => matching_iff.2
  exact ⟨matching_iff.2 paired.alike, paired.ahead, paired.behind⟩

end Pass

end TwinTree
