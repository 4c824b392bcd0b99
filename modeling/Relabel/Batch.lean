import Relabel.Entry
import Relabel.Revision

/-!
# Batches

A batch works through a list of entries, one at a time and in order, and reports an outcome for each of them.
What becomes of an entry is settled in two steps. `Batch.withoutTrying` says which entries are not tried at
all: every entry once the batch has halted, and directories if they are to be skipped. Any other entry's file
is revised, and the answer is its outcome.

A failure halts the batch under the policy `firstError` and has no further effect under `keepGoing`. The
report holds every entry, halted or not: those after the failure are `untouched`.

`Batch.run` is a batch that nobody looks at. Under observation (`Batch.watch`) a batch is the same loop with its state
spelled out, and whoever observes it may interfere between two entries. `Batch.workThrough` is the loop wherever the
files are: on a tree it is `Batch.watch`, and the program has it run on the files of the operating system.
-/

namespace Relabel

/-- What a failure does to the rest of a batch. -/
inductive Policy where
  /-- The first failure halts the batch. -/
  | firstError
  | keepGoing
  deriving DecidableEq, Repr

/-- How a batch is run. -/
structure Options where
  /-- What a failure does to the rest. -/
  policy : Policy
  /-- Whether directories are skipped. -/
  skipDirectories : Bool
  deriving DecidableEq, Repr

/-- What became of an entry. -/
inductive Outcome where
  /-- Its file was revised. -/
  | renamed
  /-- It is a directory, and those are skipped. -/
  | skipped
  /-- It was tried without success. -/
  | failed (failure : Failure)
  /-- It was not tried because the batch had halted. -/
  | untouched
  deriving DecidableEq, Repr

namespace Outcome

/-- The word for an outcome. -/
def label : Outcome → String
  | .renamed => "renamed"
  | .skipped => "skipped"
  | .failed _ => "failed"
  | .untouched => "untouched"

/-- The failure of an outcome that is one. -/
def failure? : Outcome → Option Failure
  | .failed failure => some failure
  | _ => none

/-- Whether an outcome is a failure. -/
def isFailure (outcome : Outcome) : Bool := outcome.failure?.isSome

end Outcome

/-- An entry and what became of it. -/
structure Report.Line where
  entry : Entry
  /-- What became of it. -/
  outcome : Outcome
  deriving DecidableEq, Repr

/-- How many entries had each outcome. -/
structure Counts where
  renamed : Nat
  skipped : Nat
  failed : Nat
  untouched : Nat
  deriving DecidableEq, Repr

/-- The counts of no entries. -/
def Counts.zero : Counts := ⟨0, 0, 0, 0⟩

/-- The counts with one outcome more. -/
def Counts.add (counts : Counts) : Outcome → Counts
  | .renamed => { counts with renamed := counts.renamed + 1 }
  | .skipped => { counts with skipped := counts.skipped + 1 }
  | .failed _ => { counts with failed := counts.failed + 1 }
  | .untouched => { counts with untouched := counts.untouched + 1 }

/-- What a batch reports. -/
structure Report where
  /-- The entries with their outcomes, in order. -/
  lines : List Report.Line
  /-- Whether a failure halted the batch. -/
  halted : Bool
  deriving DecidableEq, Repr

namespace Report

/-- How many entries had each outcome. -/
def counts (report : Report) : Counts :=
  report.lines.foldl (fun counts line => counts.add line.outcome) Counts.zero

/-- Whether an entry failed. -/
def hasFailures (report : Report) : Bool := report.lines.any (·.outcome.isFailure)

/-- The failures with their entries, in order. -/
def failures (report : Report) : List (Entry × Failure) :=
  report.lines.filterMap fun line => line.outcome.failure?.map (line.entry, ·)

end Report

namespace Batch

/-- The outcome of an entry that is not tried. -/
def withoutTrying (options : Options) (halted : Bool) (entry : Entry) : Option Outcome :=
  if halted then some .untouched
  else if options.skipDirectories && entry.isDirectory then some .skipped
  else none

/-- Whether a batch halts after an outcome. -/
def haltsAfter (options : Options) (outcome : Outcome) : Bool :=
  options.policy = .firstError && outcome.isFailure

/-- Tries an entry: what became of it, and the tree afterwards. -/
def attempt (tree : Tree) (entry : Entry) : Outcome × Tree :=
  match tree.reviseFile entry.path with
  | (.ok (), after) => (.renamed, after)
  | (.error failure, after) => (.failed failure, after)

/-- What becomes of an entry, and the tree afterwards. -/
def step (options : Options) (halted : Bool) (tree : Tree) (entry : Entry) : Outcome × Tree :=
  match withoutTrying options halted entry with
  | some outcome => (outcome, tree)
  | none => attempt tree entry

/-- Works through entries, the batch having halted before or not: the report and the tree afterwards. -/
def runFrom (options : Options) (halted : Bool) (tree : Tree) : List Entry → Report × Tree
  | [] => (⟨[], halted⟩, tree)
  | entry :: rest =>
    let (outcome, after) := step options halted tree entry
    let (report, final) := runFrom options (halted || haltsAfter options outcome) after rest
    ({ report with lines := ⟨entry, outcome⟩ :: report.lines }, final)

/-- Works through entries: the report and the tree afterwards. -/
def run (options : Options) (tree : Tree) (entries : List Entry) : Report × Tree :=
  runFrom options false tree entries

/-! ## Under observation -/

/-- What an observer does with an entry and its outcome: it keeps something in mind, and files are open to it as they
are to anyone. -/
abbrev Observer (σ : Type) := Entry → Outcome → σ × Tree → σ × Tree

/-- How far a batch under observation has come. -/
structure Underway (σ : Type) where
  /-- The report so far. -/
  report : Report
  tree : Tree
  /-- What the observer has in mind. -/
  seen : σ

variable {σ : Type}

/-- Deals with one entry more and tells the observer of it as soon as its outcome is known. -/
def advance (options : Options) (observe : Observer σ) (now : Underway σ) (entry : Entry) : Underway σ :=
  let (outcome, after) := step options now.report.halted now.tree entry
  let (seen, tree) := observe entry outcome (now.seen, after)
  ⟨⟨now.report.lines ++ [⟨entry, outcome⟩], now.report.halted || haltsAfter options outcome⟩, tree, seen⟩

/-- Works through entries under observation. -/
def watch (options : Options) (observe : Observer σ) (seen : σ) (tree : Tree) (entries : List Entry) : Underway σ :=
  entries.foldl (advance options observe) ⟨⟨[], false⟩, tree, seen⟩

/-! ## Wherever the files are -/

section

variable {m : Type → Type} [Monad m] (options : Options) (attempt : Entry → m Outcome) (tell : Entry → Outcome → m Unit)

/-- Deals with one entry more: tries it by `attempt` if it is to be tried, and tells of it as soon as its outcome is
known. -/
def dealWith (done : Report) (entry : Entry) : m Report := do
  let outcome ← match withoutTrying options done.halted entry with
    | some outcome => pure outcome
    | none => attempt entry
  tell entry outcome
  return ⟨done.lines ++ [⟨entry, outcome⟩], done.halted || haltsAfter options outcome⟩

/-- Works through entries. -/
def workThrough (entries : List Entry) : m Report := entries.foldlM (dealWith options attempt tell) ⟨[], false⟩

end

/-- Tries an entry on the tree at hand. -/
def attemptHere (entry : Entry) : StateM (σ × Tree) Outcome := fun (seen, tree) =>
  let (outcome, after) := attempt tree entry
  (outcome, seen, after)

/-- Tells an observer. -/
def tellObserver (observe : Observer σ) (entry : Entry) (outcome : Outcome) : StateM (σ × Tree) Unit :=
  modify (observe entry outcome)

end Batch
end Relabel
