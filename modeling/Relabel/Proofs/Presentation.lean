import Relabel.Proofs.Scope

/-!
# How a session talks and what it does

Mode, colours, verbosity and the filter of the log say how a session talks. **They have no part in what it does**: two
command lines that agree on the directory and on the options of the batch lead to the same tree and the same exit code
(`run_presentation`).

Of what is printed on the normal output, all is settled by the mode found early, by the colours and by the batch; the
log goes elsewhere (`printed_out_run`). So with the same colours, that output is the same exactly if the same mode is
found early on both command lines, or if there is no listing to start with. **The mode that is read is not enough for
that** (`run_presentation_misled`): the session talks in the mode found early, and the two modes are not the same if a
directory behind a lone `--` is called like the option.
-/

namespace Relabel

theorem Emission.printed_cons {channel : Channel} {emission : Emission} (goes : emission.channel = channel)
    (more : List Emission) : printed channel (emission :: more) = emission.bytes ++ printed channel more := by
  simp [printed, goes]

theorem Emission.channel_fatal (mode : OutputMode) (colour : Bool) (text : String) :
    (fatal mode colour text).channel = .err := by
  cases mode <;> rfl

namespace Telling

variable {mode : OutputMode} {entries : List Entry}

/-- What goes elsewhere after each line of a report makes no difference to the normal output. -/
theorem printed_steps_of_silent {log : Report.Line → List Emission}
    (silent : ∀ line, ∀ emission ∈ log line, emission.channel ≠ .out) (total before : Nat)
    (lines : List Report.Line) :
    Emission.printed .out (steps mode log total before lines) =
      Emission.printed .out (steps mode (fun _ => []) total before lines) := by
  induction lines generalizing before with
  | nil => rfl
  | cons line rest ih =>
    have nothing := Emission.printed_elsewhere (silent line)
    simp only [steps, Emission.printed_append, nothing, ih, List.nil_append]

/-- The first byte of a listing: events are objects, and a list of names stands in square brackets. -/
def opening : OutputMode → UInt8
  | .json => Ascii.openBrace
  | .interactive => Ascii.openBracket

/-- The first byte of a listing tells the mode: it is that of an object or that of a list of names. -/
theorem opening_injective : Function.Injective opening := by
  intro mode mode' same
  cases mode <;> cases mode' <;> first | rfl | cases same

theorem head?_listing (mode : OutputMode) (entries : List Entry) :
    (listing mode entries).bytes.head? = some (opening mode) := by
  cases mode with
  | json => rfl
  | interactive =>
    simp only [listing, Emission.line, Quoted.list, Utf8.encode, Utf8.encodeChars, String.toList_append,
      List.flatMap_append]
    rfl

theorem head?_printed_listing (mode : OutputMode) (entries : List Entry) (more : List Emission) :
    (Emission.printed .out (listing mode entries :: more)).head? = some (opening mode) := by
  have goes : (listing mode entries).channel = .out := by cases mode <;> rfl
  rw [Emission.printed_cons goes, List.head?_append, head?_listing, Option.some_or]

end Telling

namespace Session

variable {tree : Tree} {arguments arguments' : List String} {settings settings' : Settings} {entries : List Entry}

/-- **What is printed on the normal output is settled by the mode found early, by the colours and by the batch.** The
log and the warnings go elsewhere, so that neither verbosity nor filter has a part in it, and neither does the mode
that is read. -/
theorem printed_out_run (surroundings : Surroundings) (accepted : CommandLine.read arguments = .ok settings)
    (listed : tree.entries (Path.ofString settings.directory) = .ok entries) :
    Emission.printed .out (run surroundings arguments tree).emissions =
      Emission.printed .out
        (Telling.listing (OutputMode.detect arguments) entries ::
          Telling.batch (OutputMode.detect arguments) surroundings.colour (fun _ => [])
            (Path.ofString settings.directory) (Batch.run settings.options tree entries).1) := by
  rw [emissions_run surroundings accepted listed]
  generalize OutputMode.detect arguments = mode
  have aside : ∀ emission ∈ emptyWarning mode (Path.ofString settings.directory) entries, emission.channel ≠ .out :=
    emptyWarning_elsewhere _ entries
  have silent : ∀ line, ∀ emission ∈ logged mode (Log.Filter.ofRun surroundings.filter settings.verbosity)
      surroundings.time line, emission.channel ≠ .out :=
    logged_elsewhere _ surroundings.time
  rw [List.cons_append, ← List.singleton_append, ← @List.singleton_append _ _ (Telling.batch _ _ _ _ _)]
  simp only [Telling.batch, Emission.printed_append, Emission.printed_elsewhere aside,
    Telling.printed_steps_of_silent silent, List.nil_append]

/-- Where the directory cannot be listed, nothing is printed on the normal output. -/
theorem printed_out_run_unlisted (surroundings : Surroundings) (accepted : CommandLine.read arguments = .ok settings)
    {failure : Failure} (unlisted : tree.entries (Path.ofString settings.directory) = .error failure) :
    Emission.printed .out (run surroundings arguments tree).emissions = [] := by
  apply Emission.printed_elsewhere
  intro emission there
  simp only [run, accepted, runWith, unlisted, List.mem_singleton] at there
  rw [there, Emission.channel_fatal]
  decide

/-- **How a session talks has no part in what it does.** Two command lines that agree on the directory and on the
options of the batch lead to the same tree and to the same exit code, whatever their modes and verbosities and whatever
surrounds the two sessions. With the same colours, neither the verbosity nor the filter of the log shows on the normal
output: it is the same exactly if the same mode is found early on both command lines, or if the directory cannot be
listed. So it is the same for command lines that ask for the same mode if that is the mode found early on both. -/
theorem run_presentation (surroundings surroundings' : Surroundings) (tree : Tree)
    (accepted : CommandLine.read arguments = .ok settings) (accepted' : CommandLine.read arguments' = .ok settings')
    (sameDirectory : settings'.directory = settings.directory) (sameOptions : settings'.options = settings.options) :
    (run surroundings' arguments' tree).tree = (run surroundings arguments tree).tree ∧
      (run surroundings' arguments' tree).exit = (run surroundings arguments tree).exit ∧
      (surroundings'.colour = surroundings.colour →
        (Emission.printed .out (run surroundings' arguments' tree).emissions =
            Emission.printed .out (run surroundings arguments tree).emissions ↔
          OutputMode.detect arguments' = OutputMode.detect arguments ∨
            ∃ failure, tree.entries (Path.ofString settings.directory) = .error failure) ∧
        (settings'.mode = settings.mode → OutputMode.detect arguments = settings.mode →
          OutputMode.detect arguments' = settings'.mode →
          Emission.printed .out (run surroundings' arguments' tree).emissions =
            Emission.printed .out (run surroundings arguments tree).emissions)) := by
  have exits := exit_run surroundings' tree accepted'
  have trees := tree_run surroundings' tree accepted'
  rw [sameDirectory, sameOptions] at exits trees
  rw [exits, trees, exit_run surroundings tree accepted, tree_run surroundings tree accepted]
  refine ⟨rfl, rfl, fun sameColour => ?_⟩
  have shown : Emission.printed .out (run surroundings' arguments' tree).emissions =
        Emission.printed .out (run surroundings arguments tree).emissions ↔
      OutputMode.detect arguments' = OutputMode.detect arguments ∨
        ∃ failure, tree.entries (Path.ofString settings.directory) = .error failure := by
    cases listed : tree.entries (Path.ofString settings.directory) with
    | error failure =>
      have nothing := printed_out_run_unlisted surroundings accepted listed
      rw [← sameDirectory] at listed
      rw [nothing, printed_out_run_unlisted surroundings' accepted' listed]
      exact iff_of_true rfl (.inr ⟨failure, rfl⟩)
    | ok entries =>
      have out := printed_out_run surroundings accepted listed
      rw [← sameDirectory] at listed
      rw [out, printed_out_run surroundings' accepted' listed, sameDirectory, sameOptions, sameColour]
      constructor
      · intro same
        have first := congrArg List.head? same
        rw [Telling.head?_printed_listing, Telling.head?_printed_listing] at first
        exact .inl (Telling.opening_injective (Option.some.inj first))
      · rintro (same | ⟨failure, unlisted⟩)
        · rw [same]
        · cases unlisted
  refine ⟨shown, fun sameMode finds finds' => shown.mpr (.inl ?_)⟩
  rw [finds, finds', sameMode]

/-- A working directory with a directory that is called like an option, and a file in it. -/
@[irreducible]
def optionTree : Tree where
  nodes :=
    [⟨.directory 0 [(Ascii.bytes "--mode", 1)], 0o755, .owner⟩,
      ⟨.directory 0 [(Ascii.bytes "a", 2)], 0o755, .owner⟩,
      ⟨.file (Ascii.bytes "\x7b\"with\":1\x7d"), 0o644, .owner⟩]
  here := 0
  user := .ordinary

/-- Asked for events and for a log, a session does what it does otherwise, but what it prints is not the same. -/
theorem run_presentation_option :
    let quiet : Surroundings := ⟨none, false, ""⟩
    let loud : Surroundings := ⟨some "debug", false, ""⟩
    let ending := run quiet ["rekey", "./--mode"] optionTree
    let ending' := run loud ["rekey", "-vv", "./--mode", "--mode=json"] optionTree
    ending'.tree = ending.tree ∧ ending'.exit = ending.exit ∧
      Emission.printed .out ending'.emissions ≠ Emission.printed .out ending.emissions ∧
      Emission.printed .out (run loud ["rekey", "-v", "./--mode"] optionTree).emissions =
        Emission.printed .out ending.emissions := by
  intro quiet loud ending ending'
  have plain : CommandLine.read ["rekey", "./--mode"] = .ok ⟨"./--mode", ⟨.firstError, false⟩, 0, .interactive⟩ := by
    cbv
  have verbose : CommandLine.read ["rekey", "-v", "./--mode"] =
      .ok ⟨"./--mode", ⟨.firstError, false⟩, 1, .interactive⟩ := by cbv
  have events : CommandLine.read ["rekey", "-vv", "./--mode", "--mode=json"] =
      .ok ⟨"./--mode", ⟨.firstError, false⟩, 2, .json⟩ := by cbv
  obtain ⟨sameTree, sameExit, shown⟩ := run_presentation quiet loud optionTree plain events rfl rfl
  obtain ⟨-, -, unheard⟩ := run_presentation quiet loud optionTree plain verbose rfl rfl
  have others : ¬ (OutputMode.detect ["rekey", "-vv", "./--mode", "--mode=json"] =
        OutputMode.detect ["rekey", "./--mode"] ∨
      ∃ failure, optionTree.entries (Path.ofString "./--mode") = .error failure) := by
    rintro (same | ⟨failure, unlisted⟩)
    · exact absurd same (by decide +kernel)
    · have listed : (optionTree.entries (Path.ofString "./--mode")).toOption.isSome := by decide +kernel
      rw [unlisted] at listed
      cases listed
  exact ⟨sameTree, sameExit, fun same => others ((shown rfl).1.mp same),
    (unheard rfl).2 rfl (by decide +kernel) (by decide +kernel)⟩

/-- **The mode that is read does not settle what is printed.** Two command lines that are read as the same settings,
one of them with the mode left out, print different things in the same surroundings: the directory behind the lone
`--` is taken for the option on the first of them. -/
theorem run_presentation_misled :
    let surroundings : Surroundings := ⟨none, false, ""⟩
    let arguments := ["rekey", "--", "--mode"]
    let arguments' := ["rekey", "--mode", "interactive", "--", "--mode"]
    CommandLine.read arguments = .ok ⟨"--mode", ⟨.firstError, false⟩, 0, .interactive⟩ ∧
      CommandLine.read arguments' = .ok ⟨"--mode", ⟨.firstError, false⟩, 0, .interactive⟩ ∧
      Emission.printed .out (run surroundings arguments optionTree).emissions ≠
        Emission.printed .out (run surroundings arguments' optionTree).emissions := by
  intro surroundings arguments arguments'
  have omitted : CommandLine.read arguments = .ok ⟨"--mode", ⟨.firstError, false⟩, 0, .interactive⟩ := by cbv
  have explicit : CommandLine.read arguments' = .ok ⟨"--mode", ⟨.firstError, false⟩, 0, .interactive⟩ := by cbv
  refine ⟨omitted, explicit, fun same => ?_⟩
  cases listed : optionTree.entries (Path.ofString "--mode") with
  | error failure =>
    have there : (optionTree.entries (Path.ofString "--mode")).toOption.isSome := by decide +kernel
    rw [listed] at there
    cases there
  | ok entries =>
    rw [printed_out_run surroundings omitted listed, printed_out_run surroundings explicit listed] at same
    have first := congrArg List.head? same
    rw [Telling.head?_printed_listing, Telling.head?_printed_listing] at first
    have sameMode := Telling.opening_injective (Option.some.inj first)
    exact absurd sameMode (by decide +kernel)

end Session
end Relabel
