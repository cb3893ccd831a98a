import TwinTree.Report

/-!
# Journals

A pass keeps a journal: the report it will give, and the log lines it has emitted on the way. A
warning goes into both.
-/
namespace TwinTree

namespace Log

inductive Level where
  | error
  | warn
  | info
  | debug
  | trace
  deriving DecidableEq, Repr

/-- Which part of the library speaks. -/
inductive Source where
  | pass
  | report
  deriving DecidableEq, Repr

structure Entry where
  level : Level
  source : Source
  message : String
  deriving DecidableEq, Repr

end Log

structure Journal where
  report : Report := {}
  log : List Log.Entry := []
  deriving DecidableEq, Repr, Inhabited

namespace Journal

/-- Changes the report only. -/
def count (journal : Journal) (change : Report → Report) : Journal :=
  { journal with report := change journal.report }

/-- Emits a line about the pass. -/
def note (journal : Journal) (level : Log.Level) (message : String) : Journal :=
  { journal with log := journal.log ++ [⟨level, .pass, message⟩] }

def warn (journal : Journal) (warning : String) : Journal :=
  { report := journal.report.addWarning warning
    log := journal.log ++ [⟨.warn, .report, warning⟩] }

end Journal

end TwinTree
