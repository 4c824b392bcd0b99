import Relabel.Batch
import Relabel.Output.Emission
import Relabel.Report.Table

/-!
# Reports for people

What a person is told of a batch: a table of the entries with what became of them, and the number of entries
revised. If the batch was halted, the failure that halted it and the number of entries left alone are told
beside it; if it went on past failures, their number is.

The table and the number stand on the normal output, the failures between them on the error output.
-/

namespace Relabel

/-- The particulars of an outcome. -/
def Outcome.detail : Outcome → String
  | .renamed => "'" ++ sourceName ++ "' -> '" ++ targetName ++ "'"
  | .skipped => "directory"
  | .failed failure => failure.message
  | .untouched => "not processed"

/-- The row of an entry in the table. -/
def Report.Line.row (line : Report.Line) : List String :=
  [line.entry.name, line.outcome.label, line.outcome.detail]

namespace Report

/-- The table of a report. -/
def table (report : Report) : List String :=
  Table.lines (["entry", "status", "detail"] :: report.lines.map Report.Line.row)

/-- The line about the failure that halted a batch. -/
def stoppedLine (entry : Entry) (failure : Failure) : Styled :=
  [⟨.red, "Stopped at '" ++ entry.name ++ "': " ++ failure.message⟩]

/-- The line about the entries that a halted batch left alone. -/
def untouchedLine (untouched : Nat) : Styled :=
  [⟨.yellow, toString untouched ++
    " entries left untouched. Re-run with --keep-going to attempt them all."⟩]

/-- The line about the failures of a batch that was not halted. -/
def failedLine (failed total : Nat) : Styled :=
  [⟨.red, toString failed ++ " of " ++ toString total ++ " entries failed"⟩]

/-- The line about the entries revised. -/
def renamedLine (renamed total : Nat) : Styled :=
  [⟨.green, "✓"⟩, .plain (" Renamed " ++ toString renamed ++ " of " ++ toString total ++ " entries")]

/-- The lines of the error output. -/
def warnings (report : Report) : List Styled :=
  if report.halted then
    (report.failures.head?.map fun (entry, failure) => stoppedLine entry failure).toList ++
      [untouchedLine report.counts.untouched]
  else if 0 < report.counts.failed then [failedLine report.counts.failed report.lines.length]
  else []

/-- What a person is told of a batch. -/
def summary (report : Report) (colour : Bool) : List Emission :=
  if report.lines.isEmpty then
    [.styledLine .out colour [⟨.yellow, "Nothing to rename."⟩]]
  else
    report.table.map (Emission.line .out) ++ report.warnings.map (Emission.styledLine .err colour) ++
      [.styledLine .out colour (renamedLine report.counts.renamed report.lines.length)]

end Report
end Relabel
