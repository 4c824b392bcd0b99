import Relabel.Batch
import Relabel.Output.Emission

/-!
# Log records

What a batch logs of each of its entries, and how a record of the log is written. A record has a level, a
message, the name of the entry and, if the entry failed, the code of the failure. It is written on a line that
starts with the time, plainly for other programs and with escape sequences for people.

The message is made safe for a terminal: the control characters that steer it are shown as escapes. Line feeds
and tabs stay, and so does the name of the entry as it is.
-/

namespace Relabel
namespace Log

/-- How grave a record is, the gravest level first. -/
inductive Level where
  /-- Something failed for good. -/
  | error
  /-- Something failed. -/
  | warn
  /-- Something was done. -/
  | info
  /-- Something is being done. -/
  | debug
  /-- Anything else. -/
  | trace
  deriving DecidableEq, Repr

namespace Level

/-- The number of a level: the less grave, the higher. -/
def rank : Level → Nat
  | .error => 1
  | .warn => 2
  | .info => 3
  | .debug => 4
  | .trace => 5

/-- The word for a level, in five columns. -/
def word : Level → String
  | .error => "ERROR"
  | .warn => " WARN"
  | .info => " INFO"
  | .debug => "DEBUG"
  | .trace => "TRACE"

/-- The colour of a level. -/
def colour : Level → Nat
  | .error => 31
  | .warn => 33
  | .info => 32
  | .debug => 34
  | .trace => 35

end Level

/-- A record of the log. -/
structure Record where
  /-- How grave it is. -/
  level : Level
  message : String
  /-- The name of the entry it speaks of. -/
  entry : String
  /-- The code of the failure, if the entry failed. -/
  code : Option String
  deriving DecidableEq, Repr

/-! ## Records of a batch -/

/-- The records of an entry that is tried, before the outcome is known. -/
def attempting (entry : Entry) : Record := ⟨.debug, "rewriting", entry.name, none⟩

/-- The records of an entry with its outcome. -/
def records (line : Report.Line) : List Record :=
  match line.outcome with
  | .renamed => [attempting line.entry, ⟨.info, "renamed key", line.entry.name, none⟩]
  | .skipped => [⟨.debug, "skipping directory", line.entry.name, none⟩]
  | .failed failure =>
    [attempting line.entry, ⟨.warn, failure.message, line.entry.name, some failure.code⟩]
  | .untouched => []

/-! ## Writing -/

/-- The two lower-case hexadecimal digits of a code below 256. -/
def twoDigits (code : Nat) : List Char :=
  [Nat.digitChar (code / 16), Nat.digitChar (code % 16)]

/-- A character of a message, safe for a terminal. -/
def safeChar (c : Char) : List Char :=
  if c = '\x1b' || c = '\x07' || c = '\x08' || c = '\x0c' || c = '\x7f' then
    '\\' :: 'x' :: twoDigits c.toNat
  else if 0x80 ≤ c.toNat && c.toNat ≤ 0x9f then
    ['\\', 'u', '\x7b'] ++ twoDigits c.toNat ++ ['\x7d']
  else [c]

/-- A message, safe for a terminal. -/
def safe (message : String) : String := String.ofList (message.toList.flatMap safeChar)

/-- A text between two escape sequences: one that changes its look, and the one that changes it back. -/
def decorated (look : Nat) (text : String) : String :=
  escapeSequence look ++ text ++ escapeSequence 0

/-- A field of a record, behind a blank. -/
def field (coloured : Bool) (name value : String) : String :=
  if coloured then " " ++ decorated 3 name ++ decorated 2 "=" ++ value
  else " " ++ name ++ "=" ++ value

/-- The line of a record, without the line feed at its end. -/
def Record.text (record : Record) (coloured : Bool) (time : String) : String :=
  let lead :=
    if coloured then decorated 2 time ++ " " ++ decorated record.level.colour record.level.word
    else time ++ " " ++ record.level.word
  let code := match record.code with
    | some code => field coloured "code" ("\x22" ++ code ++ "\x22")
    | none => ""
  lead ++ " " ++ safe record.message ++ field coloured "entry" record.entry ++ code

/-- The line of a record in a mode. -/
def Record.emission (record : Record) (mode : OutputMode) (time : String) : Emission :=
  .line .err (record.text (mode = .interactive) time)

end Log
end Relabel
