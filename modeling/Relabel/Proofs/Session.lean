import Relabel.Proofs.Output.Stream
import Relabel.Proofs.Success
import Relabel.Proofs.Telling

/-!
# What a session comes to

Two things are left of a session for whoever started it, besides the tree: the exit code and what was printed.

**The exit code can be told from the tree before the session** (`exit_success_iff`): it is a success exactly if the
directory can be listed and all is well with its children, whatever the policy and whoever is told.

**To another program the normal output is an account of the batch** (`run_tells`), one document in every line, and
nothing else is printed there: warnings and the log go to the error output.
-/

namespace Relabel
namespace Session

variable {tree : Tree} {arguments : List String} {settings : Settings} {entries : List Entry} {names : List Name}

/-! ## Exit codes -/

/-- A session whose directory cannot be listed exits with a failure; any other one exits as its report says. -/
theorem exit_run (surroundings : Surroundings) (tree : Tree) (accepted : CommandLine.read arguments = .ok settings) :
    (run surroundings arguments tree).exit =
      match tree.entries (Path.ofString settings.directory) with
      | .error _ => .failure
      | .ok entries => reportExit (Batch.run settings.options tree entries).1 := by
  simp only [run, accepted, runWith]
  cases tree.entries (Path.ofString settings.directory) with
  | error failure => rfl
  | ok entries => exact congrArg Ending.exit (work_eq ..)

/-- **What a session exits with can be told from the tree before it.** Where the arguments are settings, it exits
with 0 exactly if the directory can be listed and all is well with its children; otherwise it exits with 1. Neither
the policy nor the mode has a part in it. -/
theorem exit_success_iff (surroundings : Surroundings) (tree : Tree)
    (accepted : CommandLine.read arguments = .ok settings) :
    ((run surroundings arguments tree).exit.number = 0 ↔
        ∃ names, tree.Ready settings.options.skipDirectories (Path.ofString settings.directory) names) ∧
      ((run surroundings arguments tree).exit.number ≠ 0 → (run surroundings arguments tree).exit.number = 1) := by
  rw [exit_run surroundings tree accepted]
  split
  · next failure unlisted =>
    refine ⟨iff_of_false nofun ?_, fun _ => rfl⟩
    rintro ⟨names, ready⟩
    have listed := Tree.entries_ok_iff.mpr ⟨names, ready.listed, rfl⟩
    rw [unlisted] at listed
    cases listed
  · next listed =>
    obtain ⟨names, named, rfl⟩ := Tree.entries_ok_iff.mp listed
    have one : (∃ names, tree.Ready settings.options.skipDirectories (Path.ofString settings.directory) names) ↔
        tree.Ready settings.options.skipDirectories (Path.ofString settings.directory) names := by
      refine ⟨?_, fun ready => ⟨names, ready⟩⟩
      rintro ⟨names', ready⟩
      have same := ready.listed
      rw [named] at same
      cases same
      exact ready
    rw [one, Batch.ready_iff settings.options named, reportExit]
    split
    · next fails =>
      refine ⟨iff_of_false nofun fun succeeds => ?_, fun _ => rfl⟩
      rw [fails] at succeeds
      cases succeeds
    · next succeeds => exact ⟨iff_of_true rfl (Bool.eq_false_iff.mpr succeeds), fun failed => absurd rfl failed⟩

/-- A directory with a file and a directory in it. -/
@[irreducible]
def nestedTree : Tree where
  nodes :=
    [⟨.directory 0 [(Ascii.bytes "d", 1)], 0o755, .owner⟩,
      ⟨.directory 0 [(Ascii.bytes "a", 2), (Ascii.bytes "b", 3)], 0o755, .owner⟩,
      ⟨.file (Ascii.bytes "\x7b\"with\":1\x7d"), 0o644, .owner⟩, ⟨.directory 1 [], 0o755, .owner⟩]
  here := 0
  user := .ordinary

/-- All is well with that directory if directories are skipped, and not otherwise. -/
theorem exit_success_iff_nested :
    let surroundings : Surroundings := ⟨none, false, ""⟩
    (run surroundings ["rekey", "--skip-dirs", "d"] nestedTree).exit.number = 0 ∧
      (∃ names, nestedTree.Ready true (Path.ofString "d") names) ∧
      (run surroundings ["rekey", "-k", "d"] nestedTree).exit.number = 1 ∧
      ¬ ∃ names, nestedTree.Ready false (Path.ofString "d") names := by
  intro surroundings
  have skipping : CommandLine.read ["rekey", "--skip-dirs", "d"] =
      .ok ⟨"d", ⟨.firstError, true⟩, 0, .interactive⟩ := by cbv
  have trying : CommandLine.read ["rekey", "-k", "d"] =
      .ok ⟨"d", ⟨.keepGoing, false⟩, 0, .interactive⟩ := by cbv
  have succeeds : (run surroundings ["rekey", "--skip-dirs", "d"] nestedTree).exit.number = 0 := by
    rw [exit_run surroundings nestedTree skipping]
    decide +kernel
  have fails : (run surroundings ["rekey", "-k", "d"] nestedTree).exit.number = 1 := by
    rw [exit_run surroundings nestedTree trying]
    decide +kernel
  refine ⟨succeeds, (exit_success_iff surroundings nestedTree skipping).1.mp succeeds, fails, fun ready => ?_⟩
  rw [(exit_success_iff surroundings nestedTree trying).1.mpr ready] at fails
  cases fails

/-! ## What another program reads -/

theorem logged_elsewhere {mode : OutputMode} (filter : Log.Filter) (time : String) (line : Report.Line) :
    ∀ emission ∈ logged mode filter time line, emission.channel ≠ .out := by
  intro emission there
  obtain ⟨record, -, rfl⟩ := List.mem_map.mp there
  exact nofun

theorem emptyWarning_elsewhere {mode : OutputMode} (directory : Path) (entries : List Entry) :
    ∀ emission ∈ emptyWarning mode directory entries, emission.channel ≠ .out := by
  intro emission there
  unfold emptyWarning at there
  split at there
  · rw [List.mem_singleton] at there
    subst there
    cases mode <;> exact nofun
  · cases there

/-- What a session prints if the directory can be listed. -/
theorem emissions_run (surroundings : Surroundings) (accepted : CommandLine.read arguments = .ok settings)
    (listed : tree.entries (Path.ofString settings.directory) = .ok entries) :
    (run surroundings arguments tree).emissions =
      Telling.listing (OutputMode.detect arguments) entries ::
          emptyWarning (OutputMode.detect arguments) (Path.ofString settings.directory) entries ++
        Telling.batch (OutputMode.detect arguments) surroundings.colour
          (logged (OutputMode.detect arguments) (Log.Filter.ofRun surroundings.filter settings.verbosity)
            surroundings.time)
          (Path.ofString settings.directory) (Batch.run settings.options tree entries).1 := by
  simp only [run, accepted, runWith, listed, work_eq]

/-- **A session tells another program of the directory as it is and of the batch as it went.** On the normal output
there are as many lines as the directory has entries, and two. The lines can be read in one way only, as documents
that are an account of the report of the batch, so that what is told of an entry as it is dealt with and what is told
of it in the end come from one line of the report. The entries are the directory's, in the order in which it lists
them, and each is called by its name there, read as text as far as it is text. There may be as many entries as a count
of 64 bits has room for when it is taken a hundred times. -/
theorem run_tells (surroundings : Surroundings) (accepted : CommandLine.read arguments = .ok settings)
    (mode : OutputMode.detect arguments = .json)
    (listed : tree.entries (Path.ofString settings.directory) = .ok entries)
    (counted : 100 * entries.length ≤ Progress.greatestCount) :
    ∃ documents names,
      Tells (Emission.printed .out (run surroundings arguments tree).emissions) documents ∧
      (∀ others, Tells (Emission.printed .out (run surroundings arguments tree).emissions) others →
        others = documents) ∧
      (Emission.printed .out (run surroundings arguments tree).emissions).count Ascii.lineFeed =
        entries.length + 2 ∧
      Account (Batch.run settings.options tree entries).1.lines documents ∧
      (Batch.run settings.options tree entries).1.lines.map (·.entry) = entries ∧
      tree.entryNames (Path.ofString settings.directory) = .ok names ∧
      entries = names.map (fun name => Entry.ofPath tree ((Path.ofString settings.directory).join name)) ∧
      ∀ name ∈ names, Path.IsName name →
        Entry.nameOf ((Path.ofString settings.directory).join name) = Utf8.decodeLossy name := by
  obtain ⟨names, named, its⟩ := Tree.entries_ok_iff.mp listed
  have same : (Batch.run settings.options tree entries).1.lines.map (·.entry) = entries :=
    Batch.entries_runFrom settings.options false tree entries
  have length : (Batch.run settings.options tree entries).1.lines.length = entries.length := by
    rw [← List.length_map, same]
  rw [← length] at counted
  obtain ⟨documents, account, tells⟩ :=
    Telling.tells_batch
      (logged_elsewhere (Log.Filter.ofRun surroundings.filter settings.verbosity) surroundings.time)
      (emptyWarning_elsewhere (Path.ofString settings.directory) entries) surroundings.colour
      (Path.ofString settings.directory) counted
  rw [same, ← mode, ← emissions_run surroundings accepted listed] at tells
  have lines := tells.count_lineFeed
  rw [account.length, length] at lines
  exact ⟨documents, names, tells, fun _ => tells.unique, lines, account, same, named, its,
    fun name _ h => Entry.nameOf_join _ h⟩

/-- A working directory with a file whose name is a line feed, a quotation mark and a byte that is no text, and with
a directory. -/
@[irreducible]
def strangeTree : Tree where
  nodes :=
    [⟨.directory 0 [([0x0a, 0x22, 0xff], 1), (Ascii.bytes "b", 2)], 0o755, .owner⟩,
      ⟨.file (Ascii.bytes "\x7b\"with\":1\x7d"), 0o644, .owner⟩, ⟨.directory 0 [], 0o755, .owner⟩]
  here := 0
  user := .ordinary

/-- The name does not break its lines, and what is no text in it is read as the character that stands for that. -/
theorem run_tells_strange :
    let surroundings : Surroundings := ⟨none, false, ""⟩
    let out := Emission.printed .out (run surroundings ["rekey", "--mode=json", "-ks"] strangeTree).emissions
    out.count Ascii.lineFeed = 4 ∧
      ∃ documents, Tells out documents ∧
        documents[1]? = some (message "progress" (.object [("percent", .ofNat 50), ("total", .ofNat 2),
          ("processed", .ofNat 1), ("entry", .string "\n\"\ufffd"), ("status", .string "renamed")])) ∧
        documents[2]? = some (message "progress" (.object [("percent", .ofNat 100), ("total", .ofNat 2),
          ("processed", .ofNat 2), ("entry", .string "b"), ("status", .string "skipped")])) := by
  intro surroundings out
  have accepted : CommandLine.read ["rekey", "--mode=json", "-ks"] =
      .ok ⟨".", ⟨.keepGoing, true⟩, 0, .json⟩ := by cbv
  have mode : OutputMode.detect ["rekey", "--mode=json", "-ks"] = .json := by decide +kernel
  let strange : Entry := ⟨"\n\"\ufffd", ⟨[0x2e, 0x2f, 0x0a, 0x22, 0xff]⟩, false⟩
  let plain : Entry := ⟨"b", ⟨[0x2e, 0x2f, 0x62]⟩, true⟩
  have listed : strangeTree.entries (Path.ofString ".") = .ok [strange, plain] := by decide +kernel
  have lines : (Batch.run ⟨.keepGoing, true⟩ strangeTree [strange, plain]).1.lines =
      [⟨strange, .renamed⟩, ⟨plain, .skipped⟩] := by decide +kernel
  obtain ⟨documents, names, tells, -, count, account, -⟩ := run_tells surroundings accepted mode listed (by decide)
  rw [lines] at account
  have first := account.progress 0 _ rfl
  have second := account.progress 1 _ rfl
  exact ⟨count, documents, tells, by simpa [strange, Outcome.label] using first,
    by simpa [plain, Outcome.label] using second⟩

end Session
end Relabel
