import TwinTree.Path.Basic

/-!
# Reports

What a pass did: counters, warnings, and one record for each file that was written, or that would
have been.
-/
namespace TwinTree

structure Record where
  source : Path
  destination : Path
  /-- Whether linkage keywords were stripped. -/
  stripped : Bool
  deriving DecidableEq, Repr, Inhabited

structure Report where
  /-- File entries met. -/
  scanned : Nat := 0
  /-- Files the selection accepted. -/
  matched : Nat := 0
  /-- Files written. -/
  copied : Nat := 0
  /-- Files written with linkage keywords stripped. -/
  stripped : Nat := 0
  /-- Entries left out by rule, or only planned. -/
  skipped : Nat := 0
  /-- Different directories of the twin. -/
  directories : Nat := 0
  warnings : List String := []
  records : List Record := []
  deriving DecidableEq, Repr, Inhabited

namespace Report

def addScanned (report : Report) : Report := { report with scanned := report.scanned + 1 }

def addMatched (report : Report) : Report := { report with matched := report.matched + 1 }

def addSkipped (report : Report) : Report := { report with skipped := report.skipped + 1 }

def addDirectory (report : Report) : Report :=
  { report with directories := report.directories + 1 }

def addCopied (report : Report) (record : Record) : Report :=
  { report with
    copied := report.copied + 1
    stripped := report.stripped + if record.stripped then 1 else 0
    records := report.records ++ [record] }

/-- A planned file counts as skipped. -/
def addPlanned (report : Report) (record : Record) : Report :=
  { report with skipped := report.skipped + 1, records := report.records ++ [record] }

def addWarning (report : Report) (warning : String) : Report :=
  { report with warnings := report.warnings ++ [warning] }

/-- The counters under the words they are shown with, in the order they are shown. What is shown
has 64 bits, so a count past the largest such number starts again from zero. -/
def counts (report : Report) : List (String × Nat) :=
  [("scanned", report.scanned), ("matched", report.matched), ("copied", report.copied),
   ("stripped", report.stripped), ("skipped", report.skipped), ("dirs", report.directories),
   ("warnings", report.warnings.length)].map fun (word, count) => (word, count % UInt64.size)

/-- One line behind a heading. -/
def summary (report : Report) (heading : String) : String :=
  report.counts.foldl (fun line count => line ++ " " ++ count.1 ++ "=" ++ count.2.repr) heading

def heading : String := "[MIRROR]"

/-- The report as shown. -/
def display (report : Report) : String := report.summary heading

end Report

end TwinTree
