import Relabel.CommandLine.Reader

/-!
# The mode found early is the mode that is read

`OutputMode.detect` scans a command line for the mode before it is read in earnest, and `CommandLine.read` reads it.
Both are machines over the same arguments. What either knows of the mode at a time is a `Wish`, and one function
says what an argument does to it, `Wish.after`: the scan is a fold of that function (`detectIn_eq_foldl`), and each
step of the reader follows it (`knows_take`) up to a lone `--`.

**The mode that is read is the one that the scan finds in front of a lone `--`** (`mode_of_read`). Behind it the
reader takes every argument for a directory, and the scan does not know that. So the two part where no mode is asked
for and a directory behind `--` has a name that looks like the option (`OutputMode.Misled`), and nowhere else.
-/

namespace Relabel

namespace OutputMode

/-- An argument that the scan takes for the option for the mode. -/
def Looks (argument : String) : Prop := argument = "--mode" ∨ (attachedWord? argument).isSome = true

/-- In front of a lone `--` no mode is asked for, and from there on the scan finds a wish for JSON. -/
def Misled (arguments : List String) : Prop :=
  (∀ argument ∈ (arguments.drop 1).takeWhile (· ≠ "--"), ¬ Looks argument) ∧
    detectIn ((arguments.drop 1).dropWhile (· ≠ "--")) = .json

end OutputMode

namespace CommandLine

open OutputMode

/-! ## What is known of the mode -/

/-- What is known of the mode after some arguments. -/
inductive Wish where
  /-- No mode has been asked for. -/
  | silent
  /-- The option for the mode waits for its value. -/
  | waiting
  /-- A mode has been asked for. -/
  | asked (mode : OutputMode)

namespace Wish

/-- What is known after one more argument. -/
def after : Wish → String → Wish
  | asked mode, _ => asked mode
  | waiting, argument => asked (.ofWord argument)
  | silent, argument =>
    if argument = "--mode" then waiting
    else
      match attachedWord? argument with
      | some word => asked (.ofWord word)
      | none => silent

/-- The mode that the scan makes of it at the end. -/
def mode : Wish → OutputMode
  | silent => .interactive
  | waiting => .json
  | asked mode => mode

/-- Once the scan knows the mode, no argument makes a difference to it. -/
theorem foldl_asked (mode : OutputMode) (arguments : List String) :
    arguments.foldl after (asked mode) = asked mode := by
  induction arguments with
  | nil => rfl
  | cons argument rest ih => exact ih

theorem after_silent_of_not_looks {argument : String} (h : ¬ Looks argument) :
    silent.after argument = silent := by
  rw [Looks, not_or, Option.not_isSome_iff_eq_none] at h
  simp only [after, if_neg h.1, h.2]

/-- A scan is silent after an argument exactly if it was silent and the argument does not look like the option. -/
theorem after_eq_silent_iff {wish : Wish} {argument : String} :
    wish.after argument = silent ↔ wish = silent ∧ ¬ Looks argument := by
  cases wish with
  | silent =>
    refine ⟨fun stays => ⟨rfl, fun looks => ?_⟩, fun h => after_silent_of_not_looks h.2⟩
    by_cases option : argument = "--mode"
    · simp only [after, if_pos option, reduceCtorEq] at stays
    · obtain ⟨word, attached⟩ := Option.isSome_iff_exists.mp (looks.resolve_left option)
      simp only [after, if_neg option, attached, reduceCtorEq] at stays
  | waiting => simp only [after, reduceCtorEq, false_and]
  | asked mode => simp only [after, reduceCtorEq, false_and]

end Wish

/-- The scan is a fold: it goes on argument by argument with what it knows, and answers with the mode of what it knows
in the end. -/
theorem detectIn_eq_foldl (arguments : List String) :
    detectIn arguments = (arguments.foldl Wish.after .silent).mode := by
  induction arguments with
  | nil => rfl
  | cons argument rest ih =>
    by_cases option : argument = "--mode"
    · cases rest with
      | nil => simp only [detectIn, option, ↓reduceIte, List.foldl_cons, List.foldl_nil, Wish.after, Wish.mode]
      | cons word rest =>
        simp only [detectIn, option, ↓reduceIte, List.foldl_cons, Wish.after, Wish.foldl_asked, Wish.mode]
    · simp only [detectIn, if_neg option, List.foldl_cons, Wish.after]
      cases attachedWord? argument with
      | some word => simp only [Wish.foldl_asked, Wish.mode]
      | none => exact ih

/-- What a reading knows of the mode. -/
inductive Knows (reading : Reading) : Wish → Prop
  /-- Nothing, and the mode is still the one to begin with. -/
  | silent :
    .mode ∉ reading.present → (∀ word, reading.pending ≠ some (.mode word)) → reading.mode = .interactive →
    Knows reading .silent
  /-- The option has come and its value has not. -/
  | waiting : .mode ∉ reading.present → reading.pending = some (.mode none) → Knows reading .waiting
  /-- The value has come and has not been looked at. -/
  | pending {word : String} :
    .mode ∉ reading.present → reading.pending = some (.mode (some word)) → Knows reading (.asked (.ofWord word))
  /-- The value has been looked at. -/
  | taken : .mode ∈ reading.present → Knows reading (.asked reading.mode)

variable {reading later : Reading} {wish : Wish}

/-- What is known of the mode depends on three things about a reading: whether the option is present, which value is
pending, and the mode. -/
theorem Knows.congr (h : Knows reading wish) (present : .mode ∈ later.present ↔ .mode ∈ reading.present)
    (pending : later.pending = reading.pending) (mode : later.mode = reading.mode) : Knows later wish := by
  cases h with
  | silent absent noValue default =>
    exact .silent (mt present.mp absent) (pending ▸ noValue) (mode.trans default)
  | waiting absent option => exact .waiting (mt present.mp absent) (pending.trans option)
  | pending absent value => exact .pending (mt present.mp absent) (pending.trans value)
  | taken there => exact mode ▸ .taken (present.mpr there)

/-- With no value pending, the mode has not come or it has been looked at. In the first case the reading has the mode
to begin with, and so has a silent scan. -/
theorem Knows.cases_settled (h : Knows reading wish) (nothing : reading.pending = none) :
    (wish = .silent ∧ .mode ∉ reading.present ∧ reading.mode = .interactive) ∨
      (wish = .asked reading.mode ∧ .mode ∈ reading.present) := by
  cases h with
  | silent absent _ default => exact .inl ⟨rfl, absent, default⟩
  | waiting _ option => rw [nothing] at option; cases option
  | pending _ value => rw [nothing] at value; cases value
  | taken there => exact .inr ⟨rfl, there⟩

/-! ## Looking at values -/

theorem ofWord_interactive : ofWord "interactive" = .interactive := by decide +kernel

theorem ofWord_json : ofWord "json" = .json := by decide +kernel

/-- A value that is taken is the first one, and names the mode that the scan makes of it. -/
theorem takeMode_ok {word : String} (h : takeMode reading word = (later, none)) :
    .mode ∉ reading.present ∧ .mode ∈ later.present ∧ later.mode = .ofWord word ∧
      later.pending = reading.pending := by
  unfold takeMode at h
  split at h
  · cases h
  next absent =>
    rw [List.contains_iff_mem] at absent
    have there : Argument.mode ∈ reading.present ++ [.mode] := List.mem_append_right _ List.mem_cons_self
    dsimp only at h
    split at h
    · cases h
      exact ⟨absent, there, ofWord_interactive.symm, rfl⟩
    · cases h
      exact ⟨absent, there, ofWord_json.symm, rfl⟩
    · cases h
    · cases h

/-- A directory that is taken leaves everything that is known of the mode. -/
theorem takeDirectory_ok {path : String} (h : takeDirectory reading path = (later, none)) :
    later.present = reading.present ++ [.directory] ∧ later.pending = reading.pending ∧
      later.mode = reading.mode := by
  unfold takeDirectory at h
  dsimp only at h
  split at h
  · cases h
  · cases h
    exact ⟨rfl, rfl, rfl⟩

/-- What is known is not changed by looking at the pending value, and that value must have come. If it is the value of
the option for the mode, the reading has the mode now that the scan made of the word when it came. -/
theorem knows_settled (h : settled reading = .ok later) (knows : Knows reading wish) :
    Knows later wish ∧ later.pending = none ∧ wish ≠ .waiting := by
  unfold settled at h
  split at h
  · next settledReading hs =>
    cases h
    unfold settle at hs
    dsimp only at hs
    split at hs
    · next nothing =>
      cases hs
      cases knows with
      | silent absent noValue default => exact ⟨.silent absent nofun default, rfl, nofun⟩
      | waiting absent option => rw [nothing] at option; cases option
      | pending absent value => rw [nothing] at value; cases value
      | taken there => exact ⟨.taken there, rfl, nofun⟩
    · next path directory =>
      obtain ⟨present, pending, mode⟩ := takeDirectory_ok hs
      have same : .mode ∈ later.present ↔ .mode ∈ reading.present := by
        rw [present, List.mem_append, List.mem_singleton]
        exact or_iff_left nofun
      cases knows with
      | silent absent noValue default =>
        refine ⟨.silent (mt same.mp absent) ?_ (mode.trans default), pending, nofun⟩
        rw [pending]
        exact nofun
      | waiting absent option => rw [directory] at option; cases option
      | pending absent value => rw [directory] at value; cases value
      | taken there =>
        refine ⟨?_, pending, nofun⟩
        rw [← mode]
        exact .taken (same.mpr there)
    · cases hs
    · next word value =>
      obtain ⟨absent, there, mode, pending⟩ := takeMode_ok hs
      cases knows with
      | silent _ noValue _ => exact absurd value (noValue _)
      | waiting _ option => rw [value] at option; cases option
      | pending _ value' =>
        rw [value] at value'
        cases value'
        refine ⟨?_, pending, nofun⟩
        rw [← mode]
        exact .taken there
      | taken there' => exact absurd there' absent
  · cases h

/-! ## Options -/

theorem ofLetter?_ne_mode {letter : Char} {flag : Argument} (h : Argument.ofLetter? letter = some flag) :
    flag ≠ .mode := by
  rintro rfl
  have lettered := List.find?_some h
  cases lettered

/-- Other options than the one for the mode leave what is known of it. -/
theorem knows_takeFlag {flag : Argument} (other : flag ≠ .mode) (h : takeFlag reading flag = .ok later)
    (knows : Knows reading wish) : Knows later wish ∧ wish ≠ .waiting := by
  unfold takeFlag at h
  split at h
  · cases h
  next settledReading hs =>
    obtain ⟨known, -, come⟩ := knows_settled hs knows
    refine ⟨?_, come⟩
    split at h
    · cases h
    · cases h
    · cases h
      refine known.congr ?_ rfl rfl
      rw [List.mem_append, List.mem_singleton]
      have notVerbose : Argument.mode ≠ .verbose := nofun
      rw [or_iff_left notVerbose, List.mem_erase_of_ne notVerbose]
    · split at h
      · cases h
      · cases h
        refine known.congr ?_ rfl rfl
        rw [List.mem_append, List.mem_singleton]
        exact or_iff_left other.symm

/-- Letters that are taken leave what is known of the mode, and they are no value that was waited for. -/
theorem knows_takeLetters {letters : List Char} (nonempty : letters ≠ [])
    (h : takeLetters reading letters = .ok later) (knows : Knows reading wish) :
    Knows later wish ∧ wish ≠ .waiting := by
  induction letters generalizing reading with
  | nil => exact absurd rfl nonempty
  | cons letter rest ih =>
    simp only [takeLetters] at h
    split at h
    · next flag found =>
      split at h
      · cases h
      next taken ht =>
        obtain ⟨known, come⟩ := knows_takeFlag (ofLetter?_ne_mode found) ht knows
        cases rest with
        | nil =>
          cases h
          exact ⟨known, come⟩
        | cons more rest => exact ih (List.cons_ne_nil _ _) h known
    · cases h

/-! ## Long names -/

/-- An argument has its word attached exactly if it is the option, an equals sign and the word. -/
theorem attachedWord?_eq_some_iff {argument word : String} :
    attachedWord? argument = some word ↔ argument.toList = "--mode=".toList ++ word.toList := by
  unfold attachedWord?
  dsimp only
  split
  · next starts =>
    obtain ⟨rest, whole⟩ := List.isPrefixOf_iff_prefix.mp starts
    rw [← whole, List.drop_left, Option.some.injEq, List.append_cancel_left_eq]
    exact ⟨fun h => h ▸ String.toList_ofList.symm, fun h => h ▸ String.ofList_toList⟩
  · next starts =>
    refine ⟨nofun, fun whole => absurd (List.isPrefixOf_iff_prefix.mpr ?_) starts⟩
    exact ⟨word.toList, whole.symm⟩

/-- What looks like the option is a long name, with that name in front of its value if it has one. -/
theorem exists_of_looks {argument : String} (h : Looks argument) :
    ∃ rest, argument.toList = '-' :: '-' :: rest ∧ (splitName rest).1 = "mode".toList := by
  rcases h with rfl | attached
  · exact ⟨"mode".toList, rfl, rfl⟩
  · obtain ⟨word, attached⟩ := Option.isSome_iff_exists.mp attached
    exact ⟨_, attachedWord?_eq_some_iff.mp attached, rfl⟩

theorem splitName_eq (cs : List Char) :
    cs = (splitName cs).1 ++ match (splitName cs).2 with
      | none => []
      | some value => '=' :: value := by
  induction cs with
  | nil => rfl
  | cons c rest ih =>
    unfold splitName
    split
    · next h => cases h
    · next h => cases h; rfl
    · next h =>
      cases h
      exact congrArg (c :: ·) ih

/-- An argument that does not look like the option changes nothing for a scan that does not wait for a value. -/
theorem Wish.after_of_not_looks {argument : String} (h : ¬ Looks argument) (come : wish ≠ .waiting) :
    wish.after argument = wish := by
  cases wish with
  | silent => exact after_silent_of_not_looks h
  | waiting => exact absurd rfl come
  | asked mode => rfl

theorem ofName?_mode : Argument.ofName? "mode" = some .mode := by decide

/-- The option for the mode, its value not yet there. -/
theorem knows_takeName_mode (h : takeName reading "mode" none = .ok later) (knows : Knows reading wish) :
    Knows later (wish.after "--mode") := by
  simp only [takeName, ofName?_mode] at h
  split at h
  · cases h
  next settledReading hs =>
    obtain ⟨known, nothing, -⟩ := knows_settled hs knows
    cases h
    rcases known.cases_settled nothing with ⟨rfl, absent, -⟩ | ⟨rfl, there⟩
    · exact .waiting absent rfl
    · exact .taken there

/-- The option for the mode with its value. -/
theorem knows_takeName_word {argument word : String} (attached : attachedWord? argument = some word)
    (h : takeName reading "mode" (some word) = .ok later) (knows : Knows reading wish) :
    Knows later (wish.after argument) := by
  simp only [takeName, ofName?_mode] at h
  split at h
  · cases h
  next settledReading hs =>
    obtain ⟨known, nothing, -⟩ := knows_settled hs knows
    split at h
    · next taken ht =>
      cases h
      obtain ⟨absent, there, mode, -⟩ := takeMode_ok ht
      rcases known.cases_settled nothing with ⟨rfl, -, -⟩ | ⟨rfl, there'⟩
      · have notOption : argument ≠ "--mode" := by
          rintro rfl
          cases attached
        simp only [Wish.after, if_neg notOption, attached]
        rw [← mode]
        exact .taken there
      · exact absurd there' absent
    · cases h

/-- Any other long name leaves what is known of the mode. -/
theorem knows_takeName_other {name : String} {value : Option String} (other : name ≠ "mode")
    (h : takeName reading name value = .ok later) (knows : Knows reading wish) :
    Knows later wish ∧ wish ≠ .waiting := by
  have notMode : ∀ {option : Argument}, Argument.ofName? name = some option → option ≠ .mode := by
    rintro _ found rfl
    have named := List.find?_some found
    exact other (of_decide_eq_true named).symm
  unfold takeName at h
  split at h
  · cases h
  · next found => exact absurd rfl (notMode found)
  · next found => exact absurd rfl (notMode found)
  · cases h
  · next option found => exact knows_takeFlag (notMode found) h knows

/-! ## Arguments -/

/-- A directory leaves what is known of the mode, and it is no value that was waited for. -/
theorem knows_takePositional {text : String} (h : takePositional reading text = .ok later)
    (knows : Knows reading wish) : Knows later wish ∧ wish ≠ .waiting := by
  unfold takePositional at h
  split at h
  · cases h
  split at h
  · cases h
  next settledReading hs =>
    obtain ⟨known, nothing, come⟩ := knows_settled hs knows
    cases h
    refine ⟨?_, come⟩
    rcases known.cases_settled nothing with ⟨rfl, absent, default⟩ | ⟨rfl, there⟩
    · exact .silent absent nofun default
    · exact .taken there

/-- Where an option waits for its value, the reader and the scan both take this argument for it. Elsewhere it is a
directory, which leaves what either of them knows of the mode. -/
theorem knows_takeValue {text : String} (plain : ¬ Looks text) (h : takeValue reading text = .ok later)
    (knows : Knows reading wish) : Knows later (wish.after text) := by
  unfold takeValue at h
  split at h
  · next option =>
    cases h
    cases knows with
    | silent _ noValue _ => exact absurd option (noValue none)
    | waiting absent _ => exact .pending absent rfl
    | pending _ value => rw [option] at value; cases value
    | taken there => exact .taken there
  · obtain ⟨known, come⟩ := knows_takePositional h knows
    rw [Wish.after_of_not_looks plain come]
    exact known

/-- **An argument does to the reading what it does to the scan.** If both knew the same of the mode, they know the
same afterwards. The cases are those of the reader: a long name, which is the option for the mode or another one;
letters; a value or a directory. A lone `--` is not among them, since it ends this part of the reading, and the scan
has no case for it. -/
theorem knows_take {argument : String} (h : take reading argument = .ok later) (knows : Knows reading wish) :
    Knows later (wish.after argument) := by
  unfold take at h
  split at h
  · next rest text =>
    have whole := splitName_eq rest
    dsimp only at h
    by_cases mode : (splitName rest).1 = "mode".toList
    · rw [mode] at h whole
      cases value : (splitName rest).2 with
      | none =>
        rw [value] at h whole
        have same : argument = "--mode" := by
          rw [← String.toList_inj, text, whole]
          rfl
        rw [same]
        exact knows_takeName_mode h knows
      | some word =>
        rw [value] at h whole
        have attached : attachedWord? argument = some (String.ofList word) := by
          have back : (String.ofList word).toList = word := String.toList_ofList
          rw [attachedWord?_eq_some_iff, back, text, whole]
          rfl
        exact knows_takeName_word attached h knows
    · have plain : ¬ Looks argument := by
        intro looks
        obtain ⟨rest', text', named⟩ := exists_of_looks looks
        rw [text] at text'
        cases text'
        exact mode named
      have other : String.ofList (splitName rest).1 ≠ "mode" := by
        intro same
        exact mode (by rw [← same, String.toList_ofList])
      obtain ⟨known, come⟩ := knows_takeName_other other h knows
      rw [Wish.after_of_not_looks plain come]
      exact known
  · next letter rest notLong text =>
    have plain : ¬ Looks argument := by
      intro looks
      obtain ⟨rest', text', -⟩ := exists_of_looks looks
      rw [text] at text'
      cases text'
      exact notLong rfl
    obtain ⟨known, come⟩ := knows_takeLetters (List.cons_ne_nil _ _) h knows
    rw [Wish.after_of_not_looks plain come]
    exact known
  · next notLong _ =>
    refine knows_takeValue (fun looks => ?_) h knows
    obtain ⟨rest', text', -⟩ := exists_of_looks looks
    exact notLong _ text'

/-! ## Command lines -/

/-- At the end the mode is the one that the scan makes of what is known. -/
theorem mode_of_finish {settings : Settings} (h : finish reading = .ok settings) (knows : Knows reading wish) :
    settings.mode = wish.mode := by
  unfold finish at h
  split at h
  · cases h
  next settledReading hs =>
    obtain ⟨known, nothing, -⟩ := knows_settled hs knows
    cases h
    rcases known.cases_settled nothing with ⟨rfl, -, default⟩ | ⟨rfl, -⟩
    · exact default
    · rfl

/-- Behind a lone `--` nothing is said of the mode. -/
theorem mode_of_readTrailing {settings : Settings} {arguments : List String}
    (h : readTrailing reading arguments = .ok settings) (knows : Knows reading wish) :
    settings.mode = wish.mode := by
  induction arguments generalizing reading with
  | nil => exact mode_of_finish h knows
  | cons argument rest ih =>
    simp only [readTrailing] at h
    split at h
    · cases h
    next taken ht => exact ih h (knows_takePositional ht knows).1

/-- **The mode that is read is the one that the scan finds in front of a lone `--`.** The induction is on the
arguments, with `knows_take` for each of them. At a lone `--` the reader stops looking for options, and so its mode is
what the scan knows there. -/
theorem mode_of_readFrom {settings : Settings} {arguments : List String}
    (h : readFrom reading arguments = .ok settings) (knows : Knows reading wish) :
    settings.mode = ((arguments.takeWhile (· ≠ "--")).foldl Wish.after wish).mode := by
  induction arguments generalizing reading wish with
  | nil => exact mode_of_finish h knows
  | cons argument rest ih =>
    simp only [readFrom] at h
    split at h
    · next lone =>
      rw [List.takeWhile_cons_of_neg (by simpa using lone)]
      exact mode_of_readTrailing h knows
    · next notLone =>
      split at h
      · cases h
      next taken ht =>
        rw [List.takeWhile_cons_of_pos (by simpa using notLone), List.foldl_cons]
        exact ih h (knows_take ht knows)

/-- A command line that is read has the mode that the scan finds in front of the first lone `--`. -/
theorem mode_of_read {settings : Settings} {arguments : List String} (h : read arguments = .ok settings) :
    settings.mode = detectIn ((arguments.drop 1).takeWhile (· ≠ "--")) := by
  rw [detectIn_eq_foldl]
  exact mode_of_readFrom h (.silent List.not_mem_nil nofun rfl)

/-! ## Where the two part -/

/-- A scan has found nothing exactly if it knew nothing before, and no argument looks like the option. -/
theorem foldl_after_eq_silent_iff {arguments : List String} :
    arguments.foldl Wish.after wish = .silent ↔ wish = .silent ∧ ∀ argument ∈ arguments, ¬ Looks argument := by
  induction arguments generalizing wish with
  | nil => simp only [List.foldl_nil, List.not_mem_nil, false_imp_iff, implies_true, and_true]
  | cons argument rest ih => rw [List.foldl_cons, ih, List.forall_mem_cons, Wish.after_eq_silent_iff, and_assoc]

/-- Once the scan knows something, a lone `--` and what stands behind it do not matter to it. -/
theorem mode_foldl_of_ne_silent (h : wish ≠ .silent) {behind : List String}
    (lone : ∀ argument ∈ behind.head?, argument = "--") : (behind.foldl Wish.after wish).mode = wish.mode := by
  cases wish with
  | silent => exact absurd rfl h
  | asked mode => rw [Wish.foldl_asked]
  | waiting =>
    cases behind with
    | nil => rfl
    | cons argument rest =>
      rw [lone argument rfl, List.foldl_cons, Wish.after, Wish.foldl_asked]
      decide +kernel

/-- **The mode found early is the mode that is read, unless the scan is misled.** It is misled if nothing in front of
a lone `--` looks like the option, and what stands behind makes it find JSON; then the mode is the interactive one. So
the two differ in this one way, and it can be told from the arguments alone whether they do. -/
theorem detect_iff_mode {arguments : List String} {settings : Settings} (h : read arguments = .ok settings) :
    ((detect arguments = .json ↔ settings.mode = .json) ↔ ¬ Misled arguments) ∧
      (Misled arguments → detect arguments = .json ∧ settings.mode = .interactive) := by
  have read := mode_of_read h
  rw [detectIn_eq_foldl] at read
  have scanned : detect arguments =
      (((arguments.drop 1).dropWhile (· ≠ "--")).foldl Wish.after
        (((arguments.drop 1).takeWhile (· ≠ "--")).foldl Wish.after .silent)).mode := by
    rw [← List.foldl_append, List.takeWhile_append_dropWhile, ← detectIn_eq_foldl, detect]
  have lone : ∀ argument ∈ ((arguments.drop 1).dropWhile (· ≠ "--")).head?, argument = "--" := by
    intro argument first
    have := List.head?_dropWhile_not (· ≠ "--") (arguments.drop 1)
    rw [first] at this
    simpa using this
  by_cases silent : ((arguments.drop 1).takeWhile (· ≠ "--")).foldl Wish.after .silent = .silent
  · rw [silent] at read scanned
    rw [← detectIn_eq_foldl] at scanned
    have passed := (foldl_after_eq_silent_iff.mp silent).2
    have misled : Misled arguments ↔ detect arguments = .json := by
      rw [scanned]
      exact and_iff_right passed
    have interactive : settings.mode = .interactive := read
    have notJson : settings.mode ≠ .json := by
      rw [interactive]
      exact nofun
    rw [misled]
    exact ⟨iff_false_right notJson, fun found => ⟨found, interactive⟩⟩
  · have agree : detect arguments = settings.mode := by
      rw [scanned, read, mode_foldl_of_ne_silent silent lone]
    have notMisled : ¬ Misled arguments := fun misled => silent (foldl_after_eq_silent_iff.mpr ⟨rfl, misled.1⟩)
    exact ⟨iff_of_true (by rw [agree]) notMisled, fun misled => absurd misled notMisled⟩

/-- A mode in front of the lone `--` is found, and a directory with such a name behind it does no harm then. -/
theorem detect_iff_mode_in_front :
    let arguments := ["rekey", "-kv", "--mode", "interactive", "--", "--mode=json"]
    let settings : Settings := ⟨"--mode=json", ⟨.keepGoing, false⟩, 1, .interactive⟩
    read arguments = .ok settings ∧ ¬ Misled arguments ∧ (detect arguments = .json ↔ settings.mode = .json) := by
  intro arguments settings
  have h : read arguments = .ok settings := by cbv
  have agree : detect arguments = .json ↔ settings.mode = .json := by decide +kernel
  exact ⟨h, (detect_iff_mode h).1.mp agree, agree⟩

/-- **The scan does not know the lone `--`.** A directory behind it that is called like the option is taken for the
option, and JSON is found where the mode is the interactive one. -/
theorem detect_misled :
    let arguments := ["rekey", "--", "--mode"]
    read arguments = .ok ⟨"--mode", ⟨.firstError, false⟩, 0, .interactive⟩ ∧ detect arguments = .json := by
  intro arguments
  exact ⟨by cbv, by decide +kernel⟩

end CommandLine
end Relabel
