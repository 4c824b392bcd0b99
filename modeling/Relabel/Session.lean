import Relabel.CommandLine.Reader
import Relabel.CommandLine.Wording
import Relabel.Log.Filter
import Relabel.Report.Telling

/-!
# Sessions

A session is a whole run of the program: from its arguments and its surroundings to what it prints, the code it
exits with, and the tree it leaves. It comes to an end at the first of three places: when the arguments ask for
no work or are not understood, when the directory cannot be listed, and when every entry has an outcome. Only
in the last case is there a report, and the session has gone well if no entry failed.

The mode in which a session talks is the one that `OutputMode.detect` finds, not the one among the settings:
a complaint about the arguments has to take a form, too.
-/

namespace Relabel

/-- What surrounds a session. -/
structure Surroundings where
  /-- The filter of the log that the environment describes. -/
  filter : Option String
  /-- Whether colours are wanted. -/
  colour : Bool
  /-- The time that log records show. -/
  time : String
  deriving DecidableEq, Repr

/-- How a session ended. -/
structure Ending where
  /-- What was printed, in order. -/
  emissions : List Emission
  exit : ExitCode
  tree : Tree
  deriving DecidableEq, Repr

namespace Session

/-- Where the text goes that is printed when reading the arguments stops, and the exit code. -/
def stopExit : Stop → Channel × ExitCode
  | .help | .version => (.out, .success)
  | .fault _ => (.err, .usage)

/-- What is printed when reading the arguments stops, and the exit code. -/
def stopped (mode : OutputMode) (colour : Bool) (called : String) (stop : Stop) :
    Emission × ExitCode :=
  let message := CommandLine.stopMessage called stop
  match mode, stop with
  | .json, .fault _ => (.event .err (.error message.plainText "invalid_arguments"), .failure)
  | _, stop => (.text (stopExit stop).1 (message.printed colour), (stopExit stop).2)

/-- The message that a directory could not be listed. -/
def unlistedMessage (directory : Path) (failure : Failure) : String :=
  "Failed to list '" ++ directory.shown ++ "': " ++ failure.message

/-- The warning that a directory has no entries, if it has none. -/
def emptyWarning (mode : OutputMode) (directory : Path) (entries : List Entry) : List Emission :=
  if entries.isEmpty then
    [.warning mode ("No entries found in '" ++ directory.shown ++ "'") "empty_directory"]
  else []

/-- What is logged of a line of the report. -/
def logged (mode : OutputMode) (filter : Log.Filter) (time : String) (line : Report.Line) : List Emission :=
  ((Log.records line).filter filter.admits).map (·.emission mode time)

/-- The exit code after a report. -/
def reportExit (report : Report) : ExitCode := if report.hasFailures then .failure else .success

/-- Works through the entries of a directory, and tells of each as soon as its outcome is known. -/
def work (mode : OutputMode) (surroundings : Surroundings) (settings : Settings) (directory : Path)
    (entries : List Entry) (tree : Tree) : Ending :=
  let filter := Log.Filter.ofRun surroundings.filter settings.verbosity
  let teller := Telling.teller mode (logged mode filter surroundings.time) entries.length
  let batch := Batch.watch settings.options teller (0, []) tree entries
  { emissions :=
      Telling.listing mode entries :: emptyWarning mode directory entries ++
        (batch.seen.2 ++ Telling.report mode surroundings.colour directory batch.report)
    exit := reportExit batch.report
    tree := batch.tree }

/-- A session with settings. -/
def runWith (mode : OutputMode) (surroundings : Surroundings) (settings : Settings) (tree : Tree) :
    Ending :=
  let directory := Path.ofString settings.directory
  match tree.entries directory with
  | .error failure =>
    { emissions := [.fatal mode surroundings.colour (unlistedMessage directory failure)]
      exit := .failure
      tree := tree }
  | .ok entries => work mode surroundings settings directory entries tree

/-- A session: the arguments, the program's name the first of them, in a tree. -/
def run (surroundings : Surroundings) (arguments : List String) (tree : Tree) : Ending :=
  let mode := OutputMode.detect arguments
  match CommandLine.read arguments with
  | .error stop =>
    let (emission, exit) :=
      stopped mode surroundings.colour (CommandLine.calledName arguments) stop
    { emissions := [emission], exit := exit, tree := tree }
  | .ok settings => runWith mode surroundings settings tree

end Session
end Relabel
