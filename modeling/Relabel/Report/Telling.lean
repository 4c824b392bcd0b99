import Relabel.Report.Summary
import Relabel.Report.View
import Relabel.Text.Quoted

/-!
# Telling of a batch

The three things that are told of a batch in either mode: the entries before it, how far it has come after
each of them, and the report after it. Another program gets events; a person gets a list of names, a bar that
leaves no trace, and a summary.

Of each entry it is told while the batch is under way, by someone who observes it and counts (`Telling.teller`).
`Telling.steps` are what has then been told of the lines of a report.
-/

namespace Relabel
namespace Telling

/-- The entries to work on. -/
def listing (mode : OutputMode) (entries : List Entry) : Emission :=
  match mode with
  | .json => .event .out ⟨.listing, Entry.listingView entries⟩
  | .interactive => .line .out (Quoted.list (entries.map Entry.name))

/-- How far a batch has come after a line of its report. -/
def progress (mode : OutputMode) (processed total : Nat) (line : Report.Line) : List Emission :=
  match mode with
  | .json =>
    [.event .out (.progress ⟨processed, total, line.entry.name, line.outcome.label⟩)]
  | .interactive => []

/-- The report. -/
def report (mode : OutputMode) (colour : Bool) (directory : Path) (report : Report) :
    List Emission :=
  match mode with
  | .json => [.event .out ⟨.output, report.view directory⟩]
  | .interactive => report.summary colour

/-- What is told while the lines of a report come about, each after what `log` says of it; `before` lines
have come about already. -/
def steps (mode : OutputMode) (log : Report.Line → List Emission) (total before : Nat) :
    List Report.Line → List Emission
  | [] => []
  | line :: rest =>
    log line ++ progress mode (before + 1) total line ++ steps mode log total (before + 1) rest

/-- Whoever tells of the entries of a batch, `total` in all, as their outcomes become known: so many have been dealt
with, and so much has been told. -/
def teller (mode : OutputMode) (log : Report.Line → List Emission) (total : Nat) :
    Batch.Observer (Nat × List Emission) := fun entry outcome ((processed, told), tree) =>
  ((processed + 1, told ++ (log ⟨entry, outcome⟩ ++ progress mode (processed + 1) total ⟨entry, outcome⟩)), tree)

/-- Everything told from the first line of a report on. -/
def batch (mode : OutputMode) (colour : Bool) (log : Report.Line → List Emission) (directory : Path)
    (done : Report) : List Emission :=
  steps mode log done.lines.length 0 done.lines ++ report mode colour directory done

end Telling
end Relabel
