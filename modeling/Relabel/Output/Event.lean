import Relabel.Json.Compact
import Relabel.Json.Reason

/-!
# Events

What a run tells another program is a sequence of events, each of them a document on a line of its own: an
object with the kind of the event under `type` and its particulars under `data`.

The particulars of an event may turn out not to have a document. The event then becomes an error with the code
`serialization_error`, so that there is a line in any case.
-/

namespace Relabel

/-- The kinds of events. -/
inductive EventKind where
  /-- The entries to work on. -/
  | listing
  /-- One entry more has been dealt with. -/
  | progress
  /-- The result of a run. -/
  | output
  /-- Something worth knowing. -/
  | warning
  /-- Something that ended the run. -/
  | error
  deriving DecidableEq, Repr

/-- The name of a kind of event. -/
def EventKind.name : EventKind → String
  | .listing => "listing"
  | .progress => "progress"
  | .output => "output"
  | .warning => "warning"
  | .error => "error"

/-- Something to tell another program. -/
structure Event where
  kind : EventKind
  /-- Its particulars. -/
  data : Document
  deriving Repr, BEq

/-- How far a batch has come. -/
structure Progress where
  /-- The entries dealt with so far. -/
  processed : Nat
  /-- All entries. -/
  total : Nat
  /-- The name of the entry dealt with last. -/
  entry : String
  /-- What became of it. -/
  status : String
  deriving DecidableEq, Repr

namespace Progress

/-- The greatest number that a count of 64 bits can have. -/
def greatestCount : Nat := 0xffffffffffffffff

/-- The share of the entries dealt with, in hundredths. A hundred times the count stops at the greatest
count; of no entries the share is zero. -/
def percent (processed total : Nat) : Nat :=
  if total = 0 then 0 else min (processed * 100) greatestCount / total

/-- The document of a progress. -/
def view (progress : Progress) : Document :=
  .object [("percent", .ofNat (percent progress.processed progress.total)),
    ("total", .ofNat progress.total), ("processed", .ofNat progress.processed),
    ("entry", .string progress.entry), ("status", .string progress.status)]

end Progress

namespace Event

/-- The document of a message with a code. -/
def messageView (message code : String) : Document :=
  .object [("message", .string message), ("code", .string code)]

/-- A warning. -/
def warning (message code : String) : Event := ⟨.warning, messageView message code⟩

/-- An error. -/
def error (message code : String) : Event := ⟨.error, messageView message code⟩

/-- How far a batch has come. -/
def progress (progress : Progress) : Event := ⟨.progress, progress.view⟩

/-- An error that nobody foresaw, with the place where it arose. -/
def breakdown (message : String) (place : String) : Event :=
  ⟨.error, .object [("message", .string message), ("code", .string "panic"),
    ("location", .string place)]⟩

/-- The event of some particulars, or of the reason why they have no document. -/
def ofData (kind : EventKind) : Except String Document → Event
  | .ok data => ⟨kind, data⟩
  | .error reason => error (Reason.shown reason) "serialization_error"

/-- The document of an event. -/
def document (event : Event) : Document :=
  .object [("type", .string event.kind.name), ("data", event.data)]

/-- The line of an event, without the line feed at its end. -/
def line (event : Event) : Bytes := event.document.compact

end Event
end Relabel
