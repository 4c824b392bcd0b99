import Relabel.Proofs.File.Writing
import Relabel.Proofs.Json.Relabel

/-!
# What a revision does to a tree

`Tree.reviseFile` has two outcomes, and each has a relation that says when it comes about: `Tree.Refuses` has one
rule for every place where a revision gives up, `Tree.Revises` says which file is replaced by what.
`reviseFile_cases` is the one place where the function is opened; from there on a revision is one of the two.

**A revision that fails changes nothing**: the tree afterwards is the tree before, with all its bytes, entries,
links and permission bits.

**A revision that succeeds is done once.** The new bytes are a text of the relabelled document, and revising the
same path again finds no member to relabel. The exception is a document that uncovers the number mark: its new
bytes are no text of any document, and revising again complains about that (`read_revision`). Either way no file
that was revised is ever accepted for another revision, whatever the path by which it is reached
(`refused_of_isRevision`).
-/

namespace Relabel

open Document

/-! ## Bytes -/

/-- The bytes `new` are what a file with the bytes `old` is revised to. -/
def IsRevision (old new : Bytes) : Prop :=
  ∃ document relabelled, Document.read old = .ok document ∧
    document.relabel sourceName targetName = (true, relabelled) ∧ new = relabelled.layout

variable {path : Path} {old new : Bytes}

theorem sourceName_ne_targetName : sourceName ≠ targetName := by decide

theorem targetName_ne_numberMark : targetName ≠ Reader.numberMark := by decide

/-- Bytes are revised exactly to their revision. -/
theorem revise_ok_iff : revise path old = .ok new ↔ IsRevision old new := by
  unfold revise IsRevision
  constructor
  · intro h
    split at h
    · cases h
    next document hread =>
      split at h
      · next relabelled hrelabel =>
        cases h
        exact ⟨document, relabelled, hread, hrelabel, rfl⟩
      · cases h
  · rintro ⟨document, relabelled, hread, hrelabel, rfl⟩
    simp only [hread, hrelabel]

/-- Bytes are not revised if they are no text of a document, or of one without the member. -/
theorem revise_error_cases {failure : Failure} (h : revise path old = .error failure) :
    (∃ fault, Document.read old = .error fault ∧ failure = .invalidJson path fault) ∨
      ∃ document, Document.read old = .ok document ∧ (document.relabel sourceName targetName).1 = false ∧
        failure = .missingKey path sourceName := by
  unfold revise at h
  split at h
  · next fault hread =>
    cases h
    exact .inl ⟨fault, hread, rfl⟩
  · next document hread =>
    split at h
    · cases h
    · next hrelabel =>
      cases h
      exact .inr ⟨document, hread, by rw [hrelabel], rfl⟩

/-- **The two kinds of revised bytes**: a text of the relabelled document, in which there is no member to relabel any
more, or no text of a document at all, if the number mark was uncovered. -/
theorem read_revision {document relabelled : Document} (hread : Document.read old = .ok document)
    (hrelabel : document.relabel sourceName targetName = (true, relabelled)) :
    (¬ document.Uncovers sourceName targetName → Document.read relabelled.layout = .ok relabelled) ∧
      (document.Uncovers sourceName targetName → ∃ fault, Document.read relabelled.layout = .error fault) := by
  have valid := wellFormed_of_read hread
  constructor
  · intro covered
    exact read_layout
      (wellFormed_relabelled valid sourceName_ne_targetName hrelabel targetName_ne_numberMark covered)
  · exact read_uncovered valid sourceName_ne_targetName hrelabel targetName_ne_numberMark

/-- **Revised bytes are refused ever after**, whichever of the two kinds they are: a document without the member
cannot be relabelled, and what is no text of a document cannot be read. -/
theorem refused_of_isRevision (h : IsRevision old new) (path : Path) :
    ∃ failure, revise path new = .error failure := by
  cases hrevise : revise path new with
  | error failure => exact ⟨failure, rfl⟩
  | ok newer =>
    obtain ⟨document, relabelled, hread, hrelabel, rfl⟩ := h
    obtain ⟨document', relabelled', hread', hrelabel', -⟩ := revise_ok_iff.mp hrevise
    obtain ⟨covered, uncovered⟩ := read_revision hread hrelabel
    by_cases hu : document.Uncovers sourceName targetName
    · obtain ⟨fault, hfault⟩ := uncovered hu
      rw [hfault] at hread'
      cases hread'
    · rw [covered hu] at hread'
      cases hread'
      rw [relabel_relabelled (wellFormed_of_read hread) sourceName_ne_targetName hrelabel] at hrelabel'
      cases hrelabel'

namespace Tree

/-! ## The two outcomes -/

/-- Why the file at a path is not revised: one rule for each place where a revision gives up, in the order in
which it gets there. -/
inductive Refuses (tree : Tree) (path : Path) : Failure → Prop
  /-- The path leads nowhere. -/
  | unreached {fault : IoFault} : tree.stat path = .error fault → Refuses tree path (.io path fault)
  /-- The path leads to something that is no regular file. -/
  | noFile {kind : FileKind} :
    tree.stat path = .ok kind → kind ≠ .file → Refuses tree path (.notAFile path)
  /-- The file cannot be opened. -/
  | unopened {fault : IoFault} :
    tree.stat path = .ok .file → tree.openFile path = .error fault → Refuses tree path (.io path fault)
  /-- The bytes are no text of a document. -/
  | noDocument {id : NodeId} {fault : Fault} :
    tree.stat path = .ok .file → tree.openFile path = .ok id →
    Document.read (tree.contents id) = .error fault → Refuses tree path (.invalidJson path fault)
  /-- The document has no member to relabel. -/
  | noMember {id : NodeId} {document : Document} :
    tree.stat path = .ok .file → tree.openFile path = .ok id →
    Document.read (tree.contents id) = .ok document →
    (document.relabel sourceName targetName).1 = false → Refuses tree path (.missingKey path sourceName)

/-- The file at a path is revised: it is the file `id`, and its bytes `old` become `new`. -/
structure Revises (tree : Tree) (path : Path) (id : NodeId) (old new : Bytes) : Prop where
  /-- The path leads to a regular file. -/
  stat : tree.stat path = .ok .file
  /-- The file can be opened. -/
  opened : tree.openFile path = .ok id
  /-- It holds the old bytes. -/
  content : tree.content? id = some (.file old)
  /-- The new bytes are their revision. -/
  revision : IsRevision old new

variable {tree after : Tree} {id : NodeId}

/-- **A revision is refused and leaves the tree, or it replaces one file.** There is one case for each place where it
can go wrong, in the order in which they are passed: the path, the kind of what is found, the opening, the reading,
the member. Nothing is written before the last of them has been passed. -/
theorem reviseFile_cases (tree : Tree) (path : Path) :
    (∃ failure, tree.Refuses path failure ∧ tree.reviseFile path = (.error failure, tree)) ∨
      ∃ id old new, tree.Revises path id old new ∧
        tree.reviseFile path = (.ok (), tree.replaceContents id new) := by
  unfold reviseFile
  split
  · next fault hs => exact .inl ⟨_, .unreached hs, rfl⟩
  · next hs =>
    split
    · next fault ho => exact .inl ⟨_, .unopened hs ho, rfl⟩
    next id ho =>
      split
      · next failure hrevise =>
        refine .inl ⟨failure, ?_, rfl⟩
        rcases revise_error_cases hrevise with ⟨fault, hread, rfl⟩ | ⟨document, hread, missing, rfl⟩
        · exact .noDocument hs ho hread
        · exact .noMember hs ho hread missing
      · next new hrevise =>
        exact .inr ⟨id, tree.contents id, new,
          ⟨hs, ho, content?_of_openFile hs ho, revise_ok_iff.mp hrevise⟩, rfl⟩
  · next kind notFile hs => exact .inl ⟨_, .noFile hs notFile, rfl⟩

/-- What is refused is answered with its failure. -/
theorem reviseFile_of_refuses {failure : Failure} (h : tree.Refuses path failure) :
    tree.reviseFile path = (.error failure, tree) := by
  cases h with
  | unreached hs => simp only [reviseFile, hs]
  | @noFile kind hs notFile =>
    cases kind with
    | file => exact absurd rfl notFile
    | directory | other => simp only [reviseFile, hs]
  | unopened hs ho => simp only [reviseFile, hs, ho]
  | noDocument hs ho hread => simp only [reviseFile, hs, ho, revise, hread]
  | @noMember _ document hs ho hread missing =>
    have hrelabel : document.relabel sourceName targetName =
        (false, (document.relabel sourceName targetName).2) := Prod.ext missing rfl
    simp only [reviseFile, hs, ho, revise, hread]
    rw [hrelabel]

/-- What can be revised is revised. -/
theorem reviseFile_of_revises (h : tree.Revises path id old new) :
    tree.reviseFile path = (.ok (), tree.replaceContents id new) := by
  have holds : tree.contents id = old := by simp only [contents, h.content]
  simp only [reviseFile, h.stat, h.opened, holds, revise_ok_iff.mpr h.revision]

/-- **What is refused cannot be revised.** The places where a revision can go wrong exclude each other, and a path
that has passed them all is refused nowhere. -/
theorem Refuses.not_revises {failure : Failure} (h : tree.Refuses path failure) :
    ¬ tree.Revises path id old new := by
  intro revises
  have refused := reviseFile_of_refuses h
  rw [reviseFile_of_revises revises] at refused
  cases refused

/-- A working directory that holds one file, `a`. -/
def single (bytes : Bytes) : Tree where
  nodes := [⟨.directory 0 [(Ascii.bytes "a", 1)], 0o755, .owner⟩, ⟨.file bytes, 0o644, .owner⟩]
  here := 0
  user := .ordinary

/-- **A revision that fails changes nothing.** It fails exactly where it is refused, with the failure of that
place, and the tree afterwards is the one before. -/
theorem reviseFile_error_iff {failure : Failure} :
    tree.reviseFile path = (.error failure, after) ↔ after = tree ∧ tree.Refuses path failure := by
  constructor
  · intro h
    rcases reviseFile_cases tree path with ⟨failure', refused, hr⟩ | ⟨id, old, new, -, hr⟩
    · rw [h] at hr
      cases hr
      exact ⟨rfl, refused⟩
    · rw [h] at hr
      cases hr
  · rintro ⟨rfl, refused⟩
    exact reviseFile_of_refuses refused

/-- An array has no member to relabel. -/
theorem reviseFile_error_single :
    let path := Path.ofString "a"
    let tree := single (Ascii.bytes "[1e5]")
    tree.reviseFile path = (.error (.missingKey path sourceName), tree) ∧
      tree.Refuses path (.missingKey path sourceName) := by
  intro path tree
  have h : tree.reviseFile path = (.error (.missingKey path sourceName), tree) := by decide +kernel
  exact ⟨h, (reviseFile_error_iff.mp h).2⟩

/-! ## Revising again -/

/-- A revision that succeeds replaces the bytes of one file by their revision. -/
theorem revises_of_reviseFile (h : tree.reviseFile path = (.ok (), after)) :
    ∃ id old new, tree.Revises path id old new ∧ after = tree.replaceContents id new := by
  rcases reviseFile_cases tree path with ⟨failure, -, hr⟩ | ⟨id, old, new, revises, hr⟩
  · rw [h] at hr
    cases hr
  · rw [h] at hr
    cases hr
    exact ⟨id, old, new, revises, rfl⟩

/-- What can be revised can be revised still after another file has been replaced, because paths lead where they led
and its own bytes are what they were. -/
theorem Revises.after_other {other : NodeId} (h : tree.Revises path id old new) (differ : id ≠ other)
    (bytes : Bytes) : (tree.replaceContents other bytes).Revises path id old new where
  stat := ((alike_replaceContents tree other bytes).stat path).trans h.stat
  opened := ((alike_replaceContents tree other bytes).openFile path).trans h.opened
  content := (content?_congr (node?_replaceContents_of_ne differ bytes)).trans h.content
  revision := h.revision

/-- A file that was replaced is found and opened as before, and holds the new bytes. -/
theorem Revises.again (h : tree.Revises path id old new) :
    (tree.replaceContents id new).stat path = .ok .file ∧
      (tree.replaceContents id new).openFile path = .ok id ∧
      (tree.replaceContents id new).contents id = new := by
  have alike := alike_replaceContents tree id new
  refine ⟨(alike.stat path).trans h.stat, (alike.openFile path).trans h.opened, ?_⟩
  simp only [contents, content?_replaceContents h.content]

/-- **A revision is done once.** Where a path has been revised, its file holds the layout of the relabelled
document. If relabelling did not uncover the number mark, that is a text of the relabelled document, and a second
revision finds no member to relabel; if it did, it is no text of a document, and a second revision says so. The
second revision changes nothing. -/
theorem reviseFile_again (h : tree.reviseFile path = (.ok (), after)) :
    ∃ id old document relabelled,
      tree.openFile path = .ok id ∧ tree.content? id = some (.file old) ∧
      Document.read old = .ok document ∧ document.relabel sourceName targetName = (true, relabelled) ∧
      after.content? id = some (.file relabelled.layout) ∧
      (¬ document.Uncovers sourceName targetName →
        Document.read relabelled.layout = .ok relabelled ∧
          after.reviseFile path = (.error (.missingKey path sourceName), after)) ∧
      (document.Uncovers sourceName targetName →
        ∃ fault, Document.read relabelled.layout = .error fault ∧
          after.reviseFile path = (.error (.invalidJson path fault), after)) := by
  obtain ⟨id, old, new, revises, rfl⟩ := revises_of_reviseFile h
  obtain ⟨document, relabelled, hread, hrelabel, rfl⟩ := revises.revision
  obtain ⟨hs, ho, hc⟩ := revises.again
  obtain ⟨covered, uncovered⟩ := read_revision hread hrelabel
  refine ⟨id, old, document, relabelled, revises.opened, revises.content, hread, hrelabel,
    content?_replaceContents revises.content _, fun hu => ?_, fun hu => ?_⟩
  · have readBack := covered hu
    -- What is read back is the relabelled document itself, so its own lack of the member settles it.
    have gone := relabel_relabelled (wellFormed_of_read hread) sourceName_ne_targetName hrelabel
    have missing : (relabelled.relabel sourceName targetName).1 = false := by rw [gone]
    exact ⟨readBack, reviseFile_of_refuses (.noMember hs ho (hc.symm ▸ readBack) missing)⟩
  · obtain ⟨fault, unread⟩ := uncovered hu
    exact ⟨fault, unread, reviseFile_of_refuses (.noDocument hs ho (hc.symm ▸ unread))⟩

/-- The new name is taken and stands further on; no mark is uncovered. -/
theorem reviseFile_again_single :
    let path := Path.ofString "a"
    let tree := single (Ascii.bytes "\x7b\"with\":1,\"b\":[],\"expected\":2\x7d")
    let after := single (Ascii.bytes "\x7b\n    \"b\": [],\n    \"expected\": 1\n\x7d")
    tree.reviseFile path = (.ok (), after) ∧
      ∃ id relabelled, tree.openFile path = .ok id ∧
        after.content? id = some (.file (Document.layout relabelled)) := by
  intro path tree after
  have h : tree.reviseFile path = (.ok (), after) := by decide +kernel
  obtain ⟨id, _, _, relabelled, opened, -, -, -, final, -, -⟩ := reviseFile_again h
  exact ⟨h, id, relabelled, opened, final⟩

/-- **A second revision need not find its member missing.** Here the mark is uncovered: what the first revision
writes is no text of a document, and that is what the second one complains about. -/
theorem reviseFile_again_uncovered :
    let path := Path.ofString "a"
    let tree := single
      (Ascii.bytes "\x7b\"with\":1,\"$serde_json::private::Number\":\"5\",\"expected\":2\x7d")
    let after := single
      (Ascii.bytes "\x7b\n    \"$serde_json::private::Number\": \"5\",\n    \"expected\": 1\n\x7d")
    tree.reviseFile path = (.ok (), after) ∧
      after.reviseFile path = (.error (.invalidJson path ⟨.trailingComma, ⟨2, 40⟩⟩), after) ∧
      after.reviseFile path ≠ (.error (.missingKey path sourceName), after) := by
  decide +kernel

end Tree
end Relabel
