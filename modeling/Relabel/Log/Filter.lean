import Relabel.Log.Record
import Relabel.Pattern.Support
import Relabel.Text.Pieces

/-!
# Which records are logged

A filter is a list of rules, each of which grants the records of a part of the program a level. The rules can
be written as a text, with commas between them: `info` for everything, `part=debug` for a part, `part` alone
for all of its records. Behind the part, square brackets can narrow a rule to a span and, in braces within
them, to records that have certain fields.

Of the rules that speak of a record the most particular one decides: the one with the longest part, and of
several with the same part the one with the most fields. A rule for a span, or for the value of a field,
grants a single record nothing.

The text is taken character by character in the states of `RuleState`. Blanks around a rule are not seen while
it is taken, but its pieces are cut from the text with the blanks, at the places where they were seen without
them.
-/

namespace Relabel
namespace Log

/-- The part of the program whose records this library makes. -/
def partName : String := "rekey::core::batch"

/-- What a rule grants: records up to a level, or none. -/
abbrev Grant := Option Level

/-- The number of what a rule grants: the more, the higher. -/
def Grant.rank : Grant → Nat
  | none => 0
  | some level => level.rank

/-- A field that a rule names. -/
structure RuleField where
  name : String
  /-- Whether the rule also speaks of the field's value. -/
  hasValue : Bool
  deriving DecidableEq, Repr

/-- A rule of a filter. -/
structure Rule where
  /-- The part of the program, if the rule is about one. -/
  part : Option String
  /-- The span, if the rule is about one. -/
  span : Option String
  /-- The fields that records must have. -/
  fields : List RuleField
  /-- What is granted. -/
  grant : Grant
  deriving DecidableEq, Repr

/-! ## Words for levels -/

/-- The word of a level is read in either letter case. -/
def grantOfWord? (word : String) : Option Grant :=
  match word.toLower with
  | "" => some (some .error)
  | "off" => some none
  | "error" => some (some .error)
  | "warn" => some (some .warn)
  | "info" => some (some .info)
  | "debug" => some (some .debug)
  | "trace" => some (some .trace)
  | _ => none

/-- The number that some digits stand for. -/
def numberOf? (digits : List Char) : Option Nat :=
  if digits.isEmpty || !digits.all Char.isDigit then none
  else some (digits.foldl (fun n c => n * 10 + (c.toNat - '0'.toNat)) 0)

/-- A level can be given by its number, with a plus sign before it or not. -/
def grantOfNumber? (text : String) : Option Grant :=
  let digits := match text.toList with
    | '+' :: rest => rest
    | other => other
  match numberOf? digits with
  | some 0 => some none
  | some 1 => some (some .error)
  | some 2 => some (some .warn)
  | some 3 => some (some .info)
  | some 4 => some (some .debug)
  | some 5 => some (some .trace)
  | _ => none

/-- What a text grants, if it is a word or a number for that. -/
def grant? (text : String) : Option Grant := (grantOfNumber? text).or (grantOfWord? text)

/-! ## Reading rules -/

/-- What is being read of a rule. -/
inductive RuleState where
  /-- Nothing yet. -/
  | start
  /-- A level or the name of a part, from a place on. -/
  | levelOrPart (start : Nat)
  /-- The name of a span, from a place on. -/
  | span (start : Nat)
  /-- A field, from a place on. -/
  | field (start : Nat)
  /-- The end of the fields has been seen. -/
  | fieldsEnd
  /-- The end of the square brackets has been seen. -/
  | partEnd
  /-- A level, from a place on. -/
  | level (start : Nat)
  deriving DecidableEq, Repr

/-- Whether a rule can start with a character that opens no brackets. -/
def startsRule (c : Char) : Bool :=
  c = '-' || c = ':' || c = '_' || isAlphanumeric c

/-- The part of a text between two places. -/
def cut (text : List Char) (start stop : Nat) : String :=
  String.ofList ((text.drop start).take (stop - start))

/-- Whether a text without a sign is a number, possibly with a fraction and an exponent. -/
def isDecimal (text : List Char) : Bool :=
  let whole := text.takeWhile Char.isDigit
  let rest := text.dropWhile Char.isDigit
  let (fraction, rest) := match rest with
    | '.' :: rest => (rest.takeWhile Char.isDigit, rest.dropWhile Char.isDigit)
    | rest => ([], rest)
  let hasExponent := match rest with
    | [] => true
    | e :: '+' :: digits | e :: '-' :: digits => e.toLower = 'e' && (numberOf? digits).isSome
    | e :: digits => e.toLower = 'e' && (numberOf? digits).isSome
  !(whole.isEmpty && fraction.isEmpty) && hasExponent

/-- Whether a text is a number with a plus sign, which would be no pattern. -/
def isPositive : List Char → Bool
  | '+' :: text =>
    isDecimal text || ["inf", "infinity", "nan"].contains (String.ofList text).toLower
  | _ => false

/-- The field that a text describes. What stands between its first equals sign and the next one is its value:
a number, or a pattern that can be used. -/
def ruleField? (text : String) : Option RuleField :=
  match pieces '=' text.toList with
  | name :: value :: _ =>
    if isPositive value || Pattern.isUsable value then some ⟨String.ofList name, true⟩ else none
  | [name] => some ⟨String.ofList name, false⟩
  | [] => none

/-- Takes one character of a rule, which stands at `place`. -/
def stepRule (text : List Char) (state : RuleState) (rule : Rule) (place : Nat) (c : Char) :
    Option (RuleState × Rule) :=
  match state with
  | .start =>
    if c = '[' then some (.span (place + 1), rule)
    else if startsRule c then some (.levelOrPart place, rule)
    else none
  | .levelOrPart start =>
    if c = '=' then some (.level (place + 1), { rule with part := some (cut text start place) })
    else if c = '[' then some (.span (place + 1), { rule with part := some (cut text start place) })
    else some (.levelOrPart start, rule)
  | .span start =>
    if c = ']' then some (.partEnd, { rule with span := some (cut text start place) })
    else if c = '\x7b' then
      let name := cut text start place
      some (.field (place + 1), { rule with span := if name = "" then none else some name })
    else some (.span start, rule)
  | .field start =>
    if c = '\x7d' then
      let described := cut text start place
      if described = "" then none
      else
        (ruleField? described).map fun field =>
          (.fieldsEnd, { rule with fields := rule.fields ++ [field] })
    else some (.field start, rule)
  | .fieldsEnd => if c = ']' then some (.partEnd, rule) else none
  | .partEnd => if c = '=' then some (.level (place + 1), rule) else none
  | .level start => some (.level start, rule)

/-- Takes the characters of a rule, the first of which stands at `place`. -/
def stepsRule (text : List Char) (state : RuleState) (rule : Rule) (place : Nat) :
    List Char → Option (RuleState × Rule)
  | [] => some (state, rule)
  | c :: rest =>
    match stepRule text state rule place c with
    | some (state, rule) => stepsRule text state rule (place + 1) rest
    | none => none

/-- What follows from the last state of a rule. -/
def endRule (text : List Char) (state : RuleState) (rule : Rule) : Option Rule :=
  match state with
  | .levelOrPart start =>
    let word := String.ofList (text.drop start)
    match grant? word with
    | some grant => some { rule with grant := grant, part := none }
    | none => some { rule with part := some word }
  | .level start =>
    let word := String.ofList (text.drop start)
    if word = "" then some rule else (grant? word).map fun grant => { rule with grant := grant }
  | .partEnd => some rule
  | .start | .span _ | .field _ | .fieldsEnd => none

/-- The characters of a text without the blanks around it. -/
def trimmed (text : List Char) : List Char :=
  ((text.dropWhile CharSet.blank.contains).reverse.dropWhile CharSet.blank.contains).reverse

/-- The rule that a text describes. -/
def rule? (text : List Char) : Option Rule :=
  match stepsRule text .start ⟨none, none, [], some .trace⟩ 0 (trimmed text) with
  | some (state, rule) => endRule text state rule
  | none => none

/-! ## Filters -/

/-- A filter: its rules. -/
abbrev Filter := List Rule

namespace Filter

/-- The filter that grants everything a level. -/
def everything (grant : Grant) : Filter := [⟨none, none, [], grant⟩]

/-- The filter that a text describes. A text without rules grants everything the gravest level. -/
def ofText? (text : String) : Option Filter :=
  let texts := (pieces ',' text.toList).filter (!·.isEmpty)
  if texts.isEmpty then some (everything (some .error)) else texts.mapM rule?

/-- The filter of a run that was asked so often for more log. -/
def ofVerbosity (verbosity : Nat) : Filter :=
  let level := match verbosity with
    | 0 => Level.warn
    | 1 => .info
    | _ => .debug
  [⟨some "rekey", none, [], some level⟩]

/-- The filter of a run: the one that the environment describes, if it describes one. -/
def ofRun (described : Option String) (verbosity : Nat) : Filter :=
  (described.bind ofText?).getD (ofVerbosity verbosity)

end Filter

/-- The names of the fields of a record. -/
def Record.fieldNames (record : Record) : List String :=
  ["message", "entry"] ++ if record.code.isSome then ["code"] else []

/-- Whether a rule speaks of a record. -/
def Rule.covers (rule : Rule) (record : Record) : Bool :=
  rule.span.isNone && rule.fields.all (!·.hasValue) &&
  (match rule.part with
    | none => true
    | some part => part.toList.isPrefixOf partName.toList) &&
  rule.fields.all fun field => record.fieldNames.contains field.name

/-- How particular a rule is: first by the length of its part, then by the number of its fields. -/
def Rule.weight (rule : Rule) : Nat × Nat :=
  ((rule.part.map fun part => part.length + 1).getD 0, rule.fields.length)

/-- Whether one rule has precedence over another that speaks of the same record: it is more particular, or
just as particular and later in the order of field names. -/
def Rule.precedes (rule other : Rule) : Bool :=
  let names (rule : Rule) := rule.fields.map RuleField.name
  if rule.weight.1 ≠ other.weight.1 then other.weight.1 < rule.weight.1
  else if rule.weight.2 ≠ other.weight.2 then other.weight.2 < rule.weight.2
  else names other < names rule

/-- The rule that decides about a record: of two with the same precedence, the later. -/
def Filter.deciding? (filter : Filter) (record : Record) : Option Rule :=
  (filter.filter (·.covers record)).foldl
    (fun best rule =>
      match best with
      | some earlier => if earlier.precedes rule then best else some rule
      | none => some rule)
    none

/-- Whether a filter lets a record through. -/
def Filter.admits (filter : Filter) (record : Record) : Bool :=
  match filter.deciding? record with
  | some rule => record.level.rank ≤ Grant.rank rule.grant
  | none => false

end Log
end Relabel
