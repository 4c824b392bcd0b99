import Relabel.Batch
import Relabel.Json.Document

/-!
# Reports for other programs

The document of a listing and the document of a report. Only a failed entry has the members `code` and
`message`.
-/

namespace Relabel

/-- The document of an entry. -/
def Entry.view (entry : Entry) : Document :=
  .object [("name", .string entry.name), ("is_dir", .bool entry.isDirectory)]

/-- The document of a listing. -/
def Entry.listingView (entries : List Entry) : Document := .array (entries.map Entry.view)

/-- The document of counts. -/
def Counts.view (counts : Counts) : Document :=
  .object [("renamed", .ofNat counts.renamed), ("skipped", .ofNat counts.skipped),
    ("failed", .ofNat counts.failed), ("untouched", .ofNat counts.untouched)]

/-- The members that only a failed entry has. -/
def Outcome.failureView (outcome : Outcome) : Members :=
  match outcome.failure? with
  | some failure => [("code", .string failure.code), ("message", .string failure.message)]
  | none => []

/-- The document of an entry with its outcome. -/
def Report.Line.view (line : Report.Line) : Document :=
  .object ([("name", .string line.entry.name), ("is_dir", .bool line.entry.isDirectory),
    ("status", .string line.outcome.label)] ++ line.outcome.failureView)

/-- The document of a report on the directory at a path. -/
def Report.view (directory : Path) (report : Report) : Document :=
  .object [("directory", .string directory.shown), ("halted", .bool report.halted),
    ("counts", report.counts.view), ("entries", .array (report.lines.map Report.Line.view))]

end Relabel
