import TwinTree.Proofs.Pass.Handling
import TwinTree.Proofs.Pass.Visits

/-!
# Tallies of what has been met

A tally counts the entries met in a number of visits, by what is to become of them, and a report
accounts for a tally when its counters agree with it. Each way of adding to a report adds to the
tally that it accounts for.
-/
namespace TwinTree

open FileSystem

/-- How many entries have been met, by what is to become of them. -/
@[ext]
structure Tally where
  /-- File entries, by what the selection says of their names. -/
  unrecognized : Nat := 0
  skipped : Nat := 0
  selected : Nat := 0
  /-- Selected links that lead to no regular file. -/
  hollow : Nat := 0
  /-- Entries that are neither files nor directories. -/
  special : Nat := 0
  /-- Links to directories that would be entered if they were no links. -/
  unfollowed : Nat := 0

namespace Tally

instance : Add Tally where
  add first second :=
    { unrecognized := first.unrecognized + second.unrecognized
      skipped := first.skipped + second.skipped
      selected := first.selected + second.selected
      hollow := first.hollow + second.hollow
      special := first.special + second.special
      unfollowed := first.unfollowed + second.unfollowed }

variable (first second : Tally)

@[simp] theorem add_empty : first + {} = first := rfl
@[simp] theorem add_unrecognized :
    (first + second).unrecognized = first.unrecognized + second.unrecognized := rfl
@[simp] theorem add_skipped : (first + second).skipped = first.skipped + second.skipped := rfl
@[simp] theorem add_selected : (first + second).selected = first.selected + second.selected := rfl
@[simp] theorem add_hollow : (first + second).hollow = first.hollow + second.hollow := rfl
@[simp] theorem add_special : (first + second).special = first.special + second.special := rfl
@[simp] theorem add_unfollowed :
    (first + second).unfollowed = first.unfollowed + second.unfollowed := rfl

theorem empty_add : {} + first = first := by
  ext <;> simp

theorem add_assoc (third : Tally) : first + second + third = first + (second + third) := by
  ext <;> simp [Nat.add_assoc]

theorem add_right_comm (third : Tally) : first + second + third = first + third + second := by
  ext <;> simp [Nat.add_right_comm]

end Tally

namespace Task

/-- What the selection says of a file entry. -/
def selection (task : Task) (entry : SourceEntry) : Selection :=
  .ofName task.options task.excludedFiles entry.name

/-- A selected link that leads to no regular file. -/
def isHollow (task : Task) (turn : SourceEntry × Except Failure Object) : Bool :=
  task.selection turn.1 = .selected && turn.1.isLink && !turn.2.toOption.any Object.isRegular

/-- A link to a directory whose name does not keep it from being entered. -/
def isUnfollowed (task : Task) (entry : SourceEntry) : Bool :=
  entry.isLink && !isVersionControl entry.name && !task.excludedDirectories.excludes entry.name

/-- The entries met in a number of visits. -/
def tally (task : Task) (visits : List Visit) : Tally :=
  let files := visits.flatMap (Visit.met · .file)
  { unrecognized := files.countP fun entry => task.selection entry = .unrecognized
    skipped := files.countP fun entry => task.selection entry = .skipped
    selected := files.countP fun entry => task.selection entry = .selected
    hollow := (visits.flatMap Visit.turns).countP task.isHollow
    special := (visits.flatMap (Visit.met · .special)).length
    unfollowed := (visits.flatMap (Visit.met · .directory)).countP task.isUnfollowed }

/-- The file entries among them, by their turns. -/
def tallyTurns (task : Task) (turns : List (SourceEntry × Except Failure Object)) : Tally where
  unrecognized := turns.countP fun turn => task.selection turn.1 = .unrecognized
  skipped := turns.countP fun turn => task.selection turn.1 = .skipped
  selected := turns.countP fun turn => task.selection turn.1 = .selected
  hollow := turns.countP task.isHollow

variable {task : Task}

theorem tally_append (visits later : List Visit) :
    task.tally (visits ++ later) = task.tally visits + task.tally later := by
  ext <;> simp [tally]

theorem tallyTurns_append (turns later : List (SourceEntry × Except Failure Object)) :
    task.tallyTurns (turns ++ later) = task.tallyTurns turns + task.tallyTurns later := by
  ext <;> simp [tallyTurns]

/-- A complete visit is tallied by its turns. -/
theorem tally_of_complete {visit : Visit} (complete : visit.Complete) :
    task.tally [visit] = task.tallyTurns visit.turns +
      { special := (visit.met .special).length
        unfollowed := (visit.met .directory).countP task.isUnfollowed } := by
  have counts : ∀ counted : SourceEntry → Bool, (visit.met .file).countP counted =
      visit.turns.countP fun turn => counted turn.1 := by
    intro counted
    rw [← complete.handled.countP_eq, List.countP_map]
    rfl
  ext <;> simp [tally, tallyTurns, counts]

/-! ### What one turn adds to a tally -/

variable {entry : SourceEntry} {target : Except Failure Object}

theorem tallyTurns_of_unrecognized (unrecognized : task.selection entry = .unrecognized) :
    task.tallyTurns [(entry, target)] = { unrecognized := 1 } := by
  ext <;> simp [tallyTurns, isHollow, unrecognized]

theorem tallyTurns_of_skipped (skipped : task.selection entry = .skipped) :
    task.tallyTurns [(entry, target)] = { skipped := 1 } := by
  ext <;> simp [tallyTurns, isHollow, skipped]

theorem isHollow_iff {fs : FileSystem} (selected : task.selection entry = .selected) :
    task.isHollow (entry, fs.stat entry.path) = true ↔ ¬ entry.HasContent fs := by
  simp [isHollow, selected, SourceEntry.HasContent]

theorem tallyTurns_of_selected {fs : FileSystem} (selected : task.selection entry = .selected) :
    task.tallyTurns [(entry, fs.stat entry.path)] =
      if entry.HasContent fs then { selected := 1 } else { selected := 1, hollow := 1 } := by
  by_cases content : entry.HasContent fs
  · have filled := Bool.eq_false_iff.2 fun hollow => (isHollow_iff selected).1 hollow content
    ext <;> simp [tallyTurns, selected, content, filled]
  · have hollow := (isHollow_iff selected).2 content
    ext <;> simp [tallyTurns, selected, content, hollow]

end Task

namespace Journal

variable (journal : Journal)

@[simp] theorem report_note (level : Log.Level) (message : String) :
    (journal.note level message).report = journal.report := rfl
@[simp] theorem report_warn (warning : String) :
    (journal.warn warning).report = journal.report.addWarning warning := rfl

end Journal

/-! ### Accounts -/

/-- The counters of a report agree with the entries met. -/
structure Accounts (dryRun : Bool) (tally : Tally) (report : Report) : Prop where
  scanned : report.scanned = tally.unrecognized + tally.skipped + tally.selected
  matched : report.matched = tally.selected
  recorded : tally.selected = report.records.length + tally.hollow
  warned : report.warnings.length = tally.special + tally.unfollowed + tally.hollow
  copied : report.copied = if dryRun then 0 else report.records.length
  stripped : report.stripped = if dryRun then 0 else report.records.countP Record.stripped
  skipped : report.skipped =
    tally.skipped + tally.hollow + if dryRun then report.records.length else 0

namespace Accounts

variable {dryRun : Bool} {tally : Tally} {report : Report}

theorem addDirectory (accounts : Accounts dryRun tally report) :
    Accounts dryRun tally report.addDirectory where
  __ := accounts

theorem special {journal : Journal} (accounts : Accounts dryRun tally journal.report)
    (warnings : List String) :
    Accounts dryRun (tally + { special := warnings.length })
      (journal.warnAll warnings).report where
  __ := accounts
  warned := by simp [Journal.warnAll, accounts.warned]; omega

theorem unfollowed (accounts : Accounts dryRun tally report) (warning : String) :
    Accounts dryRun (tally + { unfollowed := 1 }) (report.addWarning warning) where
  __ := accounts
  warned := by simp [Report.addWarning, accounts.warned]; omega

theorem unrecognized (accounts : Accounts dryRun tally report) :
    Accounts dryRun (tally + { unrecognized := 1 }) report.addScanned where
  __ := accounts
  scanned := by simp [Report.addScanned, accounts.scanned]; omega

theorem leftOut (accounts : Accounts dryRun tally report) :
    Accounts dryRun (tally + { skipped := 1 }) report.addScanned.addSkipped where
  __ := accounts
  scanned := by simp [Report.addScanned, Report.addSkipped, accounts.scanned]; omega
  skipped := by simp [Report.addScanned, Report.addSkipped, accounts.skipped]; omega

theorem hollow (accounts : Accounts dryRun tally report) (warning : String) :
    Accounts dryRun (tally + { selected := 1, hollow := 1 })
      (report.addScanned.addMatched.addWarning warning).addSkipped where
  scanned := by
    simp [Report.addScanned, Report.addMatched, Report.addWarning, Report.addSkipped,
      accounts.scanned]
    omega
  matched := congrArg (· + 1) accounts.matched
  recorded := by
    have recorded := accounts.recorded
    simp [Report.addScanned, Report.addMatched, Report.addWarning, Report.addSkipped] at *
    omega
  warned := by
    have warned := accounts.warned
    simp [Report.addScanned, Report.addMatched, Report.addWarning, Report.addSkipped] at *
    omega
  copied := accounts.copied
  stripped := accounts.stripped
  skipped := by
    simp [Report.addScanned, Report.addMatched, Report.addWarning, Report.addSkipped,
      accounts.skipped]
    omega

end Accounts

/-- A selected file has been counted and is yet to be recorded. -/
def Awaits (dryRun : Bool) (tally : Tally) (report : Report) : Prop :=
  ∃ earlier, Accounts dryRun tally earlier ∧ report = earlier.addScanned.addMatched

namespace Awaits

variable {tally : Tally} {report : Report} (record : Record)

theorem addDirectory {dryRun : Bool} (awaits : Awaits dryRun tally report) :
    Awaits dryRun tally report.addDirectory := by
  obtain ⟨earlier, accounts, rfl⟩ := awaits
  exact ⟨earlier.addDirectory, accounts.addDirectory, rfl⟩

theorem addCopied (awaits : Awaits false tally report) :
    Accounts false (tally + { selected := 1 }) (report.addCopied record) := by
  obtain ⟨earlier, ⟨scanned, matched, recorded, warned, copied, stripped, skipped⟩, rfl⟩ := awaits
  constructor <;> simp_all [Report.addCopied, Report.addScanned, Report.addMatched] <;> omega

theorem addPlanned (awaits : Awaits true tally report) :
    Accounts true (tally + { selected := 1 }) (report.addPlanned record) := by
  obtain ⟨earlier, ⟨scanned, matched, recorded, warned, copied, stripped, skipped⟩, rfl⟩ := awaits
  constructor <;> simp_all [Report.addPlanned, Report.addScanned, Report.addMatched] <;> omega

end Awaits

end TwinTree
