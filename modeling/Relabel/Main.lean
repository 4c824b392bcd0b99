import Relabel.Session
import Std.Time

/-!
# The program

The outer layer: it asks the operating system for what `Relabel.Session` takes as given, and prints what it
hands out. Nothing is decided here. The files are those of the real file system instead of a `Tree`; whether an
entry is tried at all, what its new bytes are and whether the batch goes on is decided by `Batch.workThrough` and
`revise` in either case.
-/

namespace Relabel
namespace Program

/-! ## The operating system -/

/-- The number of a failed request as it was handed on, negated or not. -/
def rawNumber : IO.Error → UInt32
  | .alreadyExists _ code _ => code
  | .otherError code _ => code
  | .resourceBusy code _ => code
  | .resourceVanished code _ => code
  | .unsupportedOperation code _ => code
  | .hardwareFault code _ => code
  | .unsatisfiedConstraints code _ => code
  | .illegalOperation code _ => code
  | .protocolError code _ => code
  | .timeExpired code _ => code
  | .interrupted _ code _ => code
  | .noFileOrDirectory _ code _ => code
  | .invalidArgument _ code _ => code
  | .permissionDenied _ code _ => code
  | .resourceExhausted _ code _ => code
  | .inappropriateType _ code _ => code
  | .noSuchThing _ code _ => code
  | .unexpectedEof => 0
  | .userError _ => 0

/-- The number of a failed request. -/
def errorNumber (error : IO.Error) : Nat :=
  let code := rawNumber error
  if 0x80000000 ≤ code then (0 - code).toNat else code.toNat

/-- Makes a request and tells how it failed. -/
def request {α : Type} (action : IO α) : IO (Except IoFault α) := do
  match ← action.toBaseIO with
  | .ok value => return .ok value
  | .error error => return .error (.system ⟨errorNumber error⟩)

/-- The kind of what a path leads to. -/
def kind (path : Path) : IO (Except IoFault FileKind) := do
  if path.bytes.contains 0 then return .error .zeroByteInPath
  let entry : IO.FS.DirEntry := ⟨path.shown, ""⟩
  match ← request entry.root.metadata with
  | .error fault => return .error fault
  | .ok metadata =>
    match metadata.type with
    | .file => return .ok .file
    | .dir => return .ok .directory
    | _ => return .ok .other

/-- The entry of a path. -/
def entry (path : Path) : IO Entry := do
  let isDirectory := match ← kind path with
    | .ok .directory => true
    | _ => false
  return ⟨Entry.nameOf path, path, isDirectory⟩

/-- The entries of a directory. -/
def entries (directory : Path) : IO (Except Failure (List Entry)) := do
  match ← kind directory with
  | .error fault => return .error (.io directory fault)
  | .ok .directory =>
    let listed : IO.FS.DirEntry := ⟨directory.shown, ""⟩
    match ← request listed.root.readDir with
    | .error fault => return .error (.unlisted directory fault)
    | .ok found =>
      let names := found.toList.map fun child => Utf8.encode child.fileName
      return .ok (← names.mapM fun name => entry (directory.join name))
  | .ok _ => return .error (.notADirectory directory)

/-- Revises the file that a path leads to. -/
def reviseFile (path : Path) : IO (Except Failure Unit) := do
  match ← kind path with
  | .error fault => return .error (.io path fault)
  | .ok .file =>
    match ← request (IO.FS.Handle.mk path.shown .readWrite) with
    | .error fault => return .error (.io path fault)
    | .ok file =>
      match ← request file.readBinToEnd with
      | .error fault => return .error (.io path fault)
      | .ok old =>
        match revise path old.toList with
        | .error failure => return .error failure
        | .ok new =>
          let written ← request do
            file.rewind
            file.write ⟨new.toArray⟩
            file.truncate
            file.flush
          return written.mapError (Failure.io path)
  | .ok _ => return .error (.notAFile path)

/-! ## Printing -/

/-- Prints an emission. -/
def print (emission : Emission) : IO Unit := do
  let stream ← match emission.channel with
    | .out => IO.getStdout
    | .err => IO.getStderr
  stream.write ⟨emission.bytes.toArray⟩
  stream.flush

/-- The time of a log record. -/
def time : IO String := do
  let now ← Std.Time.Timestamp.now
  return (Std.Time.DateTime.ofTimestamp now .UTC).format "uuuu-MM-dd'T'HH:mm:ss.SSSSSS'Z'"

/-- Whether colours are wanted. -/
def wantsColour : IO Bool := do
  match ← IO.getEnv "CLICOLOR_FORCE" with
  | some value => return value != "0"
  | none => return (← (← IO.getStdout).isTty) && (← IO.getEnv "NO_COLOR").isNone

/-! ## A run -/

/-- Tries an entry. -/
def attempt (entry : Entry) : IO Outcome := do
  match ← reviseFile entry.path with
  | .ok () => return .renamed
  | .error failure => return .failed failure

/-- Works through entries, and prints what is told of each of them. -/
def runBatch (mode : OutputMode) (filter : Log.Filter) (options : Options) (entries : List Entry) : IO Report := do
  let processed ← IO.mkRef 0
  let tell (entry : Entry) (outcome : Outcome) : IO Unit := do
    processed.modify (· + 1)
    (Session.logged mode filter (← time) ⟨entry, outcome⟩).forM print
    (Telling.progress mode (← processed.get) entries.length ⟨entry, outcome⟩).forM print
  Batch.workThrough options attempt tell entries

/-- A run with settings: its exit code. -/
def runWith (mode : OutputMode) (colour : Bool) (settings : Settings) : IO ExitCode := do
  let directory := Path.ofString settings.directory
  match ← entries directory with
  | .error failure =>
    print (.fatal mode colour (Session.unlistedMessage directory failure))
    return .failure
  | .ok found =>
    print (Telling.listing mode found)
    (Session.emptyWarning mode directory found).forM print
    let filter := Log.Filter.ofRun (← IO.getEnv "RUST_LOG") settings.verbosity
    let report ← runBatch mode filter settings.options found
    (Telling.report mode colour directory report).forM print
    return Session.reportExit report

/-- A run: its exit code. -/
def run (arguments : List String) : IO ExitCode := do
  let mode := OutputMode.detect arguments
  let colour ← wantsColour
  match CommandLine.read arguments with
  | .error stop =>
    let (emission, exit) := Session.stopped mode colour (CommandLine.calledName arguments) stop
    print emission
    return exit
  | .ok settings => runWith mode colour settings

end Program
end Relabel

/-- Runs the program. -/
def main (arguments : List String) : IO UInt32 := do
  let exit ← Relabel.Program.run (Relabel.CommandLine.programName :: arguments)
  return exit.number.toUInt32
