import Relabel.Batch
import Relabel.Proofs.Revision

/-!
# A batch revises a file once

Entries of a batch may lead to one file by many paths: by the same path given twice, by links, by hard links.
**No file is revised twice all the same**, because what one revision writes the next one refuses
(`refused_of_isRevision`). So every file holds either the bytes it held before the batch or the revision of
those very bytes, and the count of renamed entries is the number of files that changed.

`Batch.written` is the history of a batch: the files it replaces, one for each revision, in order. `Tree.Rewrote`
is what such a history says about the trees before and after. It holds of no revision (`Rewrote.refl`), a
revision in front keeps it (`Rewrote.cons`), and from these two it holds of a batch by induction on the entries
(`rewrote_runFrom`), halted or not and from any tree.
-/

namespace Relabel

namespace Tree

/-- Between two trees the files of a list have been revised once each, and nothing else has changed. -/
structure Rewrote (tree after : Tree) (files : List NodeId) : Prop where
  /-- No file is there twice. -/
  once : files.Nodup
  /-- Every other node is as it was. -/
  others : ∀ id, id ∉ files → after.node? id = tree.node? id
  /-- Every file in the list holds the revision of its bytes. -/
  revised : ∀ id ∈ files, ∃ old new,
    tree.content? id = some (.file old) ∧ IsRevision old new ∧ after.content? id = some (.file new)

variable {tree after : Tree} {files : List NodeId} {path : Path} {id : NodeId} {old new : Bytes}

theorem Rewrote.refl (tree : Tree) : Rewrote tree tree [] :=
  ⟨List.nodup_nil, fun _ _ => rfl, fun _ h => nomatch h⟩

/-- **A revision in front of others is of another file than theirs.** After it the file holds revised bytes, those are
refused ever after, and so no later revision is of this file. -/
theorem Rewrote.cons (h : tree.Revises path id old new)
    (later : Rewrote (tree.replaceContents id new) after files) : Rewrote tree after (id :: files) := by
  have written := content?_replaceContents h.content new
  have stays : ∀ other, other ≠ id →
      (tree.replaceContents id new).node? other = tree.node? other :=
    fun other differ => node?_replaceContents_of_ne differ new
  -- Were the file among the later ones, its new bytes would have been revised once more.
  have notLater : id ∉ files := by
    intro hid
    obtain ⟨old', new', holds, again, -⟩ := later.revised id hid
    rw [written] at holds
    cases holds
    obtain ⟨failure, refused⟩ := refused_of_isRevision h.revision path
    rw [revise_ok_iff.mpr again] at refused
    cases refused
  refine ⟨List.nodup_cons.mpr ⟨notLater, later.once⟩, fun other hother => ?_, fun other hother => ?_⟩
  · rw [List.mem_cons, not_or] at hother
    rw [later.others other hother.2, stays other hother.1]
  · rcases List.mem_cons.mp hother with rfl | hother
    · exact ⟨old, new, h.content, h.revision, (content?_congr (later.others other notLater)).trans written⟩
    · obtain ⟨old', new', holds, revision, final⟩ := later.revised other hother
      have differ : other ≠ id := fun same => notLater (same ▸ hother)
      exact ⟨old', new', (content?_congr (stays other differ)).symm.trans holds, revision, final⟩

/-- The files of a list that was revised hold other bytes than before, and no other node does. Revised bytes are never
those that they are the revision of, because they are refused and the others were not. -/
theorem Rewrote.contents_ne_iff (h : Rewrote tree after files) (id : NodeId) :
    after.contents id ≠ tree.contents id ↔ id ∈ files := by
  constructor
  · intro differ
    by_contra notThere
    apply differ
    simp only [contents, content?_congr (h.others id notThere)]
  · intro there same
    obtain ⟨old, new, before, revision, final⟩ := h.revised id there
    simp only [contents, before, final] at same
    subst same
    obtain ⟨failure, refused⟩ := refused_of_isRevision revision ⟨[]⟩
    rw [revise_ok_iff.mpr revision] at refused
    cases refused

/-- The files that hold other bytes than before. -/
def changedFiles (tree after : Tree) : List NodeId :=
  (List.range tree.nodes.length).filter fun id => after.contents id ≠ tree.contents id

/-- As many files have changed as were revised. -/
theorem Rewrote.length_changedFiles (h : Rewrote tree after files) :
    (changedFiles tree after).length = files.length := by
  have distinct : (changedFiles tree after).Nodup := List.nodup_range.filter _
  apply List.Perm.length_eq
  rw [List.perm_ext_iff_of_nodup distinct h.once]
  intro id
  rw [changedFiles, List.mem_filter, decide_eq_true_eq, h.contents_ne_iff, List.mem_range,
    and_iff_right_iff_imp]
  intro there
  obtain ⟨old, new, before, -, -⟩ := h.revised id there
  obtain ⟨node, hn, -⟩ := content?_eq_some_iff.mp before
  exact (List.getElem?_eq_some_iff.mp hn).1

end Tree

namespace Report

/-- The count of renamed entries counts the lines that say so. -/
theorem renamed_foldl (lines : List Report.Line) (counts : Counts) :
    (lines.foldl (fun counts line => counts.add line.outcome) counts).renamed =
      counts.renamed + lines.countP (·.outcome = .renamed) := by
  induction lines generalizing counts with
  | nil => rfl
  | cons line lines ih =>
    rw [List.foldl_cons, ih, List.countP_cons]
    cases line.outcome with
    | renamed => simp only [Counts.add, decide_true, ↓reduceIte]; omega
    | _ => simp only [Counts.add, reduceCtorEq, decide_false, Bool.false_eq_true, ↓reduceIte, Nat.add_zero]

theorem renamed_counts (report : Report) :
    report.counts.renamed = report.lines.countP (·.outcome = .renamed) := by
  rw [counts, renamed_foldl]
  exact Nat.zero_add _

end Report

namespace Batch

variable (options : Options) (halted : Bool) (tree : Tree) (entry : Entry) (entries : List Entry)

/-- **A step leaves the tree, or it is a revision.** If it leaves the tree, its outcome is another one than that of a
revision; and if that is a failure, it is the failure with which the tree refuses the path of the entry. -/
theorem step_cases :
    (∃ outcome, outcome ≠ .renamed ∧
        (∀ failure, outcome = .failed failure → tree.Refuses entry.path failure) ∧
        step options halted tree entry = (outcome, tree)) ∨
      ∃ id old new, tree.Revises entry.path id old new ∧
        step options halted tree entry = (.renamed, tree.replaceContents id new) := by
  unfold step
  split
  · next outcome ho =>
    unfold withoutTrying at ho
    split at ho
    · cases ho
      exact .inl ⟨.untouched, nofun, nofun, rfl⟩
    split at ho
    · cases ho
      exact .inl ⟨.skipped, nofun, nofun, rfl⟩
    · cases ho
  · unfold attempt
    rcases tree.reviseFile_cases entry.path with ⟨failure, refused, hr⟩ | ⟨id, old, new, revises, hr⟩
    · refine .inl ⟨.failed failure, nofun, ?_, by rw [hr]⟩
      rintro _ ⟨⟩
      exact refused
    · exact .inr ⟨id, old, new, revises, by rw [hr]⟩

/-- The files that are replaced while entries are worked through, one for each revision, in order. -/
def writtenFrom (options : Options) (halted : Bool) (tree : Tree) : List Entry → List NodeId
  | [] => []
  | entry :: rest =>
    let (outcome, after) := step options halted tree entry
    let later := writtenFrom options (halted || haltsAfter options outcome) after rest
    match outcome, tree.openFile entry.path with
    | .renamed, .ok id => id :: later
    | _, _ => later

/-- The files that a batch replaces, one for each revision, in order. -/
def written (options : Options) (tree : Tree) (entries : List Entry) : List NodeId :=
  writtenFrom options false tree entries

variable {options halted tree entry entries}

/-- A step that is no revision adds nothing to the history. -/
theorem writtenFrom_of_left {outcome : Outcome}
    (hs : step options halted tree entry = (outcome, tree)) (notRenamed : outcome ≠ .renamed) :
    writtenFrom options halted tree (entry :: entries) =
      writtenFrom options (halted || haltsAfter options outcome) tree entries := by
  simp only [writtenFrom, hs]
  split
  · exact absurd rfl notRenamed
  · rfl

/-- A step that is a revision adds its file. -/
theorem writtenFrom_of_revises {id : NodeId} {old new : Bytes}
    (hs : step options halted tree entry = (.renamed, tree.replaceContents id new))
    (revises : tree.Revises entry.path id old new) :
    writtenFrom options halted tree (entry :: entries) =
      id :: writtenFrom options (halted || haltsAfter options .renamed)
        (tree.replaceContents id new) entries := by
  simp only [writtenFrom, hs, revises.opened]

variable (options halted tree entries)

/-- **Working through entries revises every file of the history once**, and there are as many as renamed
entries. -/
theorem rewrote_runFrom :
    tree.Rewrote (runFrom options halted tree entries).2 (writtenFrom options halted tree entries) ∧
      (runFrom options halted tree entries).1.lines.countP (·.outcome = .renamed) =
        (writtenFrom options halted tree entries).length := by
  induction entries generalizing halted tree with
  | nil => exact ⟨.refl tree, rfl⟩
  | cons entry rest ih =>
    rcases step_cases options halted tree entry with
      ⟨outcome, notRenamed, -, hs⟩ | ⟨id, old, new, revises, hs⟩
    · obtain ⟨rewrote, counted⟩ := ih (halted || haltsAfter options outcome) tree
      rw [writtenFrom_of_left hs notRenamed]
      simp only [runFrom, hs, List.countP_cons, decide_eq_true_eq, if_neg notRenamed, Nat.add_zero]
      exact ⟨rewrote, counted⟩
    · obtain ⟨rewrote, counted⟩ := ih (halted || haltsAfter options .renamed) (tree.replaceContents id new)
      rw [writtenFrom_of_revises hs revises]
      simp only [runFrom, hs, List.countP_cons, decide_true, ↓reduceIte, List.length_cons, counted]
      exact ⟨.cons revises rewrote, trivial⟩

/-- **Working through entries leaves no file out.** If a file can be revised before the batch, by the path of an entry
that was tried, it is in the history, be it on account of that entry or of an earlier one. An earlier revision of the
same file is the only thing that can come between. -/
theorem mem_writtenFrom_of_tried {line : Report.Line}
    (there : line ∈ (runFrom options halted tree entries).1.lines)
    (notSkipped : line.outcome ≠ .skipped) (notUntouched : line.outcome ≠ .untouched)
    {id : NodeId} {old new : Bytes} (h : tree.Revises line.entry.path id old new) :
    id ∈ writtenFrom options halted tree entries := by
  induction entries generalizing halted tree with
  | nil => cases there
  | cons entry rest ih =>
    rcases step_cases options halted tree entry with
      ⟨outcome, notRenamed, refused, hs⟩ | ⟨first, old', new', revises, hs⟩
    · rw [writtenFrom_of_left hs notRenamed]
      simp only [runFrom, hs, List.mem_cons] at there
      rcases there with rfl | there
      · cases outcome with
        | failed failure => exact absurd h (refused failure rfl).not_revises
        | renamed => exact absurd rfl notRenamed
        | skipped => exact absurd rfl notSkipped
        | untouched => exact absurd rfl notUntouched
      · exact ih _ _ there h
    · rw [writtenFrom_of_revises hs revises, List.mem_cons]
      simp only [runFrom, hs, List.mem_cons] at there
      rcases there with rfl | there
      · left
        have opened := h.opened
        rw [revises.opened] at opened
        exact (Except.ok.inj opened).symm
      · -- The file is the one just replaced, or it can still be revised.
        by_cases same : id = first
        · exact .inl same
        · exact .inr (ih _ _ there (h.after_other same new'))

/-- **A batch revises a file at most once.** No file is replaced twice; a file that is replaced holds the
revision of the bytes it held before the batch, and every other node is what it was, so that every regular file
holds its bytes of before or their revision. The renamed entries are as many as the files replaced, and as the files
that hold other bytes than before. And no file is left out that an entry led to, was tried, and could have been
revised. -/
theorem run_revises_once :
    (written options tree entries).Nodup ∧
      (∀ id, id ∉ written options tree entries →
        (run options tree entries).2.node? id = tree.node? id) ∧
      (∀ id ∈ written options tree entries, ∃ old new,
        tree.content? id = some (.file old) ∧ IsRevision old new ∧
          (run options tree entries).2.content? id = some (.file new)) ∧
      (∀ id old, tree.content? id = some (.file old) →
        ∃ new, (run options tree entries).2.content? id = some (.file new) ∧
          (new = old ∨ IsRevision old new)) ∧
      (run options tree entries).1.counts.renamed = (written options tree entries).length ∧
      (run options tree entries).1.counts.renamed =
        (tree.changedFiles (run options tree entries).2).length ∧
      (∀ line ∈ (run options tree entries).1.lines, line.outcome ≠ .skipped → line.outcome ≠ .untouched →
        ∀ id old new, tree.Revises line.entry.path id old new → id ∈ written options tree entries) := by
  obtain ⟨rewrote, counted⟩ := rewrote_runFrom options false tree entries
  rw [← Report.renamed_counts] at counted
  refine ⟨rewrote.once, rewrote.others, rewrote.revised, fun id old before => ?_, counted,
    counted.trans rewrote.length_changedFiles.symm, fun line there notSkipped notUntouched _ _ _ h =>
      mem_writtenFrom_of_tried options false tree entries there notSkipped notUntouched h⟩
  by_cases hid : id ∈ written options tree entries
  · obtain ⟨old', new, before', revision, final⟩ := rewrote.revised id hid
    rw [before] at before'
    cases before'
    exact ⟨new, final, .inr revision⟩
  · exact ⟨old, (Tree.content?_congr (rewrote.others id hid)).trans before, .inl rfl⟩

/-- Two hard links to one file: the second entry finds the file revised already, and it holds the revision of
what it held at first. -/
theorem run_revises_once_links :
    let old := Ascii.bytes "\x7b\"with\":1\x7d"
    let tree : Tree :=
      { nodes :=
          [⟨.directory 0 [(Ascii.bytes "a", 1), (Ascii.bytes "b", 1)], 0o755, .owner⟩,
            ⟨.file old, 0o644, .owner⟩]
        here := 0
        user := .ordinary }
    let entries := [Entry.ofPath tree (.ofString "a"), Entry.ofPath tree (.ofString "b")]
    let options : Options := ⟨.keepGoing, false⟩
    (run options tree entries).1.counts = ⟨1, 0, 1, 0⟩ ∧ written options tree entries = [1] ∧
      ∃ new, (run options tree entries).2.content? 1 = some (.file new) ∧ IsRevision old new := by
  intro old tree entries options
  have history : written options tree entries = [1] := by decide +kernel
  refine ⟨by decide +kernel, history, ?_⟩
  obtain ⟨-, -, revised, -⟩ := run_revises_once options tree entries
  obtain ⟨before, new, holds, revision, final⟩ := revised 1 (by rw [history]; exact List.mem_singleton_self 1)
  have same : tree.content? 1 = some (.file old) := rfl
  rw [same] at holds
  cases holds
  exact ⟨new, final, revision⟩

end Batch
end Relabel
