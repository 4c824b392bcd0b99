import Relabel.Proofs.Presentation

/-!
# Sessions that end before the batch

A session ends early if its arguments are not settings, or if its directory cannot be listed. **Then it touches nothing
and says one thing** (`run_early`): the tree is as it was, and nothing is told of a batch. What is said is the help or
the version, on the normal output, or an error, on the error output.

To another program the error is one line, however many lines its text has and whatever it quotes of the arguments, and
the text is read back from it as it was (`EndsWithError`). The normal output stays empty.
-/

namespace Relabel

/-! ## What is told of a batch -/

theorem Utf8.head?_encode_append {front : String} {b : UInt8} (h : (encode front).head? = some b) (rest : String) :
    (encode (front ++ rest)).head? = some b := by
  rw [encode, encodeChars, String.toList_append, List.flatMap_append, List.head?_append]
  rw [encode, encodeChars] at h
  rw [h, Option.some_or]

/-- A styled text begins as its first span does. -/
theorem Styled.head?_printed {front : Span} {b : UInt8} (shown : (Utf8.encode (front.shown true)).head? = some b)
    (filtered : (Utf8.encode (Terminal.filtered front.text)).head? = some b) (rest : Styled) (colour : Bool) :
    (Utf8.encode (Styled.printed colour (front :: rest))).head? = some b := by
  cases colour with
  | false =>
    rw [Styled.printed, if_neg nofun, List.map_cons, String.join_cons]
    exact Utf8.head?_encode_append filtered _
  | true =>
    rw [Styled.printed, if_pos rfl, Styled.shown, List.map_cons, String.join_cons]
    exact Utf8.head?_encode_append shown _

theorem Emission.head?_line {text : String} {b : UInt8} (channel : Channel)
    (h : (Utf8.encode text).head? = some b) : (Emission.line channel text).bytes.head? = some b := by
  rw [Emission.line, List.head?_append, h, Option.some_or]

/-- Every line of a table begins with a corner or with a border. -/
theorem Table.head?_of_mem_lines {rows : List (List String)} {line : String} (there : line ∈ Table.lines rows) :
    (Utf8.encode line).head? = some Ascii.plus ∨ (Utf8.encode line).head? = some 0x7c := by
  have ruled (widths : List Nat) : (Utf8.encode (Table.rule widths)).head? = some Ascii.plus :=
    Utf8.head?_encode_append (by decide +kernel) _
  rw [Table.lines, List.mem_cons, List.mem_flatMap] at there
  rcases there with rfl | ⟨row, -, there⟩
  · exact .inl (ruled _)
  · rw [List.mem_append, List.mem_singleton] at there
    rcases there with there | rfl
    · obtain ⟨number, -, rfl⟩ := List.mem_map.mp there
      exact .inr (Utf8.head?_encode_append (by decide +kernel) _)
    · exact .inl (ruled _)

namespace Telling

/-- Something that is told of a batch on the normal output: the entries, how far it has come, or a part of the
report. -/
def OfBatch (emission : Emission) : Prop :=
  emission.channel = .out ∧
    ∃ mode, (∃ entries, emission = listing mode entries) ∨
      (∃ processed total line, emission ∈ progress mode processed total line) ∨
      ∃ colour directory done, emission ∈ report mode colour directory done

/-- The bytes with which that can begin: those of objects, of names in brackets and of tables, and those of the lines
below a table and in its place, with colours and without. -/
def openings : Bytes := [Ascii.openBrace, Ascii.openBracket, Ascii.plus, 0x7c, 0x4e, 0xe2, 0x1b]

/-- The line about the renamed entries begins with its sign, or with an escape sequence if there are colours. -/
theorem head?_renamedLine (colour : Bool) (renamed total : Nat) :
    ∃ b ∈ openings, (Utf8.encode ((Report.renamedLine renamed total).shown colour)).head? = some b := by
  rw [Report.renamedLine, Styled.shown, List.map_cons, String.join_cons]
  cases colour with
  | false => exact ⟨0xe2, by decide, Utf8.head?_encode_append (by decide +kernel) _⟩
  | true => exact ⟨0x1b, by decide, Utf8.head?_encode_append (by decide +kernel) _⟩

/-- What a person is told of a report on the normal output: a line in place of the table, or the table and a line below
it. -/
theorem head?_of_mem_summary {done : Report} {colour : Bool} {emission : Emission}
    (there : emission ∈ done.summary colour) (out : emission.channel = .out) :
    ∃ b ∈ openings, emission.bytes.head? = some b := by
  rw [Report.summary] at there
  split at there
  · rw [List.mem_singleton] at there
    subst there
    cases colour with
    | false => exact ⟨0x4e, by decide, by decide +kernel⟩
    | true => exact ⟨0x1b, by decide, by decide +kernel⟩
  · rw [List.mem_append, List.mem_append, List.mem_singleton] at there
    rcases there with (there | there) | rfl
    · obtain ⟨text, among, rfl⟩ := List.mem_map.mp there
      rcases Table.head?_of_mem_lines among with first | first
      · exact ⟨_, by decide, Emission.head?_line .out first⟩
      · exact ⟨_, by decide, Emission.head?_line .out first⟩
    · -- The warnings between them go to the error output.
      obtain ⟨styled, -, rfl⟩ := List.mem_map.mp there
      cases out
    · obtain ⟨b, inside, first⟩ := head?_renamedLine colour done.counts.renamed done.lines.length
      exact ⟨b, inside, Emission.head?_line .out first⟩

/-- **Whatever is told of a batch on the normal output begins with one of the openings.** That is how the help and the
version are told from it, which begin otherwise. -/
theorem OfBatch.head? {emission : Emission} (h : OfBatch emission) :
    ∃ b ∈ openings, emission.bytes.head? = some b := by
  obtain ⟨out, mode, ⟨entries, rfl⟩ | ⟨processed, total, line, there⟩ | ⟨colour, directory, done, there⟩⟩ := h
  · exact ⟨opening mode, by cases mode <;> decide, head?_listing mode entries⟩
  · cases mode with
    | json =>
      rw [progress, List.mem_singleton] at there
      exact ⟨Ascii.openBrace, by decide, by rw [there]; rfl⟩
    | interactive => cases there
  · cases mode with
    | json =>
      rw [report, List.mem_singleton] at there
      exact ⟨Ascii.openBrace, by decide, by rw [there]; rfl⟩
    | interactive => exact head?_of_mem_summary there out

end Telling

namespace Session

open CommandLine (faultMessage stopMessage calledName help version)

/-- Neither the help nor the version begins like something told of a batch. -/
theorem head?_stopMessage (called : String) (colour : Bool) {stop : Stop} (asked : stop = .help ∨ stop = .version) :
    ∃ b ∉ Telling.openings, (Utf8.encode ((stopMessage called stop).printed colour)).head? = some b := by
  rcases asked with rfl | rfl
  · exact ⟨0x52, by decide, Styled.head?_printed (by decide +kernel) (by decide +kernel) _ colour⟩
  · exact ⟨0x72, by decide, Styled.head?_printed (by decide +kernel) (by decide +kernel) _ colour⟩

/-! ## Errors that end a session -/

/-- An ending with nothing but an error, told to another program: nothing on the normal output, and on the error output
a single line, which can be read in one way only, as an error with its text and its code. -/
structure EndsWithError (ending : Ending) (text code : String) : Prop where
  /-- Nothing is on the normal output. -/
  out : Emission.printed .out ending.emissions = []
  /-- The error output is read as an error. -/
  err : Tells (Emission.printed .err ending.emissions)
    [message "error" (.object [("message", .string text), ("code", .string code)])]
  /-- It is not read as anything else. -/
  only : ∀ documents, Tells (Emission.printed .err ending.emissions) documents →
    documents = [message "error" (.object [("message", .string text), ("code", .string code)])]
  /-- It is one line. -/
  line : (Emission.printed .err ending.emissions).count Ascii.lineFeed = 1
  exit : ending.exit.number = 1

/-- An error event is such an ending. -/
theorem endsWithError {ending : Ending} {text code : String}
    (tells : ending.emissions = [.event .err (.error text code)]) (fails : ending.exit = .failure) :
    EndsWithError ending text code := by
  have err : Tells (Emission.printed .err ending.emissions) [(Event.error text code).document] := by
    rw [tells, Emission.printed_event]
    apply Event.tells_lines
    intro event there
    rw [List.mem_singleton] at there
    subst there
    exact Event.wellFormed_document (Event.wellFormed_messageView text code _)
  refine ⟨?_, err, fun _ => err.unique, err.count_lineFeed, by rw [fails]; rfl⟩
  rw [tells]
  exact Emission.printed_elsewhere (List.forall_mem_singleton.mpr nofun)

/-! ## The early ends -/

variable {tree : Tree} {arguments : List String} {settings : Settings} {failure : Failure}

/-- A session whose arguments are not settings says what there is to be said of that, and does nothing. -/
theorem run_stopped (surroundings : Surroundings) (tree : Tree) {stop : Stop}
    (refused : CommandLine.read arguments = .error stop) :
    run surroundings arguments tree =
      let said := stopped (OutputMode.detect arguments) surroundings.colour (calledName arguments) stop
      ⟨[said.1], said.2, tree⟩ := by
  simp only [run, refused]

theorem run_unlisted (surroundings : Surroundings) (accepted : CommandLine.read arguments = .ok settings)
    (unlisted : tree.entries (Path.ofString settings.directory) = .error failure) :
    run surroundings arguments tree =
      ⟨[.fatal (OutputMode.detect arguments) surroundings.colour
        (unlistedMessage (Path.ofString settings.directory) failure)], .failure, tree⟩ := by
  simp only [run, accepted, runWith, unlisted]

/-- Who asks for the help or for the version gets it, in either mode. -/
theorem stopped_asked (mode : OutputMode) (colour : Bool) (called : String) {stop : Stop}
    (asked : stop = .help ∨ stop = .version) :
    stopped mode colour called stop = (.text .out ((stopMessage called stop).printed colour), .success) := by
  rcases asked with rfl | rfl <;> cases mode <;> rfl

theorem stopped_not_ofBatch (mode : OutputMode) (colour : Bool) (called : String) (stop : Stop) :
    ¬ Telling.OfBatch (stopped mode colour called stop).1 := by
  intro told
  have asked : stop = .help ∨ stop = .version := by
    cases stop with
    | help => exact .inl rfl
    | version => exact .inr rfl
    | fault fault => cases mode <;> cases told.1
  obtain ⟨b, inside, first⟩ := told.head?
  obtain ⟨c, outside, first'⟩ := head?_stopMessage called colour asked
  rw [stopped_asked mode colour called asked] at first
  exact outside (Option.some.inj (first'.symm.trans first) ▸ inside)

theorem fatal_not_ofBatch (mode : OutputMode) (colour : Bool) (text : String) :
    ¬ Telling.OfBatch (.fatal mode colour text) := by
  intro told
  have out := told.1
  rw [Emission.channel_fatal] at out
  cases out

/-- **A session that ends early touches nothing and says one thing.** Where the arguments are not settings, or the
directory cannot be listed, the tree is left as it was, and a single thing is printed, which is nothing that is told of
a batch. Who asks for the help or for the version gets it on the normal output and exit code 0, in either mode.
Arguments that are not understood and directories that cannot be listed are errors: another program is told of them in
one line with exit code 1, and a person in plain words. -/
theorem run_early (surroundings : Surroundings) (arguments : List String) (tree : Tree)
    (early : ∀ settings, CommandLine.read arguments = .ok settings →
      ∃ failure, tree.entries (Path.ofString settings.directory) = .error failure) :
    let ending := run surroundings arguments tree
    ending.tree = tree ∧
      (∃ emission, ending.emissions = [emission] ∧ ¬ Telling.OfBatch emission) ∧
      (∀ stop, CommandLine.read arguments = .error stop → stop = .help ∨ stop = .version →
        ending.exit.number = 0 ∧
          ending.emissions =
            [.text .out ((stopMessage (calledName arguments) stop).printed surroundings.colour)]) ∧
      (∀ fault, CommandLine.read arguments = .error (.fault fault) →
        (OutputMode.detect arguments = .json →
          EndsWithError ending (faultMessage (calledName arguments) fault).plainText "invalid_arguments") ∧
        (OutputMode.detect arguments = .interactive →
          ending.exit.number = 2 ∧
            ending.emissions =
              [.text .err ((faultMessage (calledName arguments) fault).printed surroundings.colour)])) ∧
      ∀ settings failure, CommandLine.read arguments = .ok settings →
        tree.entries (Path.ofString settings.directory) = .error failure →
        (OutputMode.detect arguments = .json →
          EndsWithError ending (unlistedMessage (Path.ofString settings.directory) failure) "fatal") ∧
        (OutputMode.detect arguments = .interactive →
          ending.exit.number = 1 ∧
            ending.emissions =
              [.styledLine .err surroundings.colour
                [⟨.red, "Error: " ++ unlistedMessage (Path.ofString settings.directory) failure⟩]]) := by
  intro ending
  have untouched : ending.tree = tree ∧ ∃ emission, ending.emissions = [emission] ∧ ¬ Telling.OfBatch emission := by
    cases accepted : CommandLine.read arguments with
    | error stop =>
      have ends : ending = _ := run_stopped surroundings tree accepted
      rw [ends]
      exact ⟨rfl, _, rfl, stopped_not_ofBatch _ _ _ stop⟩
    | ok settings =>
      obtain ⟨failure, unlisted⟩ := early settings accepted
      have ends : ending = _ := run_unlisted surroundings accepted unlisted
      rw [ends]
      exact ⟨rfl, _, rfl, fatal_not_ofBatch _ _ _⟩
  refine ⟨untouched.1, untouched.2, fun stop refused asked => ?_, fun fault refused => ?_,
    fun settings failure accepted unlisted => ?_⟩
  · have ends : ending = _ := run_stopped surroundings tree refused
    rw [ends, stopped_asked _ _ _ asked]
    exact ⟨rfl, rfl⟩
  · have ends : ending = _ := run_stopped surroundings tree refused
    rw [ends]
    constructor
    · intro json
      rw [json]
      exact endsWithError rfl rfl
    · intro interactive
      rw [interactive]
      exact ⟨rfl, rfl⟩
  · have ends : ending = _ := run_unlisted surroundings accepted unlisted
    rw [ends]
    constructor
    · intro json
      rw [json]
      exact endsWithError rfl rfl
    · intro interactive
      rw [interactive]
      exact ⟨rfl, rfl⟩

/-- An argument with a line feed and a quotation mark is quoted in a single line, with the text around it; so is the
name of a directory that is not there. The help is given where events are asked for, too. -/
theorem run_early_quoting :
    let surroundings : Surroundings := ⟨none, false, ""⟩
    let unknown := ["rekey", "--mode=json", "--a\n\"b"]
    let missing := ["rekey", "--mode", "json", "no\nsuch"]
    let asking := ["rekey", "--mode=json", "--help"]
    EndsWithError (run surroundings unknown nestedTree)
        ("error: unexpected argument '--a\n\"b' found\n\n  tip: to pass '--a\n\"b' as a value, use '-- --a\n\"b'\n\n" ++
          "Usage: rekey --mode <MODE> [DIR]\n\nFor more information, try '--help'.\n")
        "invalid_arguments" ∧
      (run surroundings unknown nestedTree).tree = nestedTree ∧
      EndsWithError (run surroundings missing nestedTree)
        "Failed to list 'no\nsuch': I/O error on 'no\nsuch': No such file or directory (os error 2)" "fatal" ∧
      (run surroundings missing nestedTree).tree = nestedTree ∧
      (run surroundings asking nestedTree).exit.number = 0 := by
  intro surroundings unknown missing asking
  have refused : CommandLine.read unknown =
      .error (.fault (.unknown "--a\n\"b" (some .asValue) [.mode])) := by decide +kernel
  have accepted : CommandLine.read missing = .ok ⟨"no\nsuch", ⟨.firstError, false⟩, 0, .json⟩ := by cbv
  have asked : CommandLine.read asking = .error .help := by cbv
  have unlisted : nestedTree.entries (Path.ofString "no\nsuch") =
      .error (.io (.ofString "no\nsuch") (.system .notFound)) := by decide +kernel
  obtain ⟨left, -, -, quoted, -⟩ := run_early surroundings unknown nestedTree fun settings read => by
    rw [refused] at read
    cases read
  obtain ⟨left', -, -, -, named⟩ := run_early surroundings missing nestedTree fun settings read => by
    rw [accepted] at read
    cases read
    exact ⟨_, unlisted⟩
  obtain ⟨-, -, helped, -⟩ := run_early surroundings asking nestedTree fun settings read => by
    rw [asked] at read
    cases read
  have text : (faultMessage (calledName unknown) (.unknown "--a\n\"b" (some .asValue) [.mode])).plainText =
      "error: unexpected argument '--a\n\"b' found\n\n  tip: to pass '--a\n\"b' as a value, use '-- --a\n\"b'\n\n" ++
        "Usage: rekey --mode <MODE> [DIR]\n\nFor more information, try '--help'.\n" := by decide +kernel
  have inOneLine := (quoted _ refused).1 (by decide +kernel)
  rw [text] at inOneLine
  have notThere : unlistedMessage (Path.ofString "no\nsuch") (.io (.ofString "no\nsuch") (.system .notFound)) =
      "Failed to list 'no\nsuch': I/O error on 'no\nsuch': No such file or directory (os error 2)" := by decide +kernel
  have inOneLine' := (named _ _ accepted unlisted).1 (by decide +kernel)
  rw [notThere] at inOneLine'
  exact ⟨inOneLine, left, inOneLine', left', (helped _ asked (.inl rfl)).1⟩

end Session

end Relabel
