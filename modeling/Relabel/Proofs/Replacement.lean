import Relabel.Proofs.Json.Formatter
import Relabel.Proofs.Revision

/-!
# What a successful revision leaves behind

A path may lead to a file by links, and the file may have other names. `Tree.Editable` says that a path leads to a
regular file which the user may read and write, whatever it holds; together with what it holds this is all there is
to success (`revises_iff`).

**A revision succeeds exactly on an editable file with an object that has the member, and then rewrites that one
file** (`reviseFile_ok_iff`). `Tree.Rewritten` says what that means for everybody who looks at the tree: the file
holds the new bytes alone, be they more or fewer than the old ones, all its names show them, and nothing else is
different.
-/

namespace Relabel
namespace Tree

variable {tree after : Tree} {path : Path} {id : NodeId} {old new : Bytes}

/-- A path leads, through links or not, to the regular file `id`, which holds the bytes `old` and which the user may
read and write. -/
def Editable (tree : Tree) (path : Path) (id : NodeId) (old : Bytes) : Prop :=
  tree.resolve path true = .ok id ∧ ∃ node, tree.node? id = some node ∧ node.content = .file old ∧
    node.allows tree.user .read = true ∧ node.allows tree.user .write = true

/-- A file is editable by a path if the path leads to a regular file, opens it, and these are its bytes. -/
theorem editable_iff :
    tree.Editable path id old ↔
      tree.stat path = .ok .file ∧ tree.openFile path = .ok id ∧ tree.content? id = some (.file old) := by
  constructor
  · intro h
    obtain ⟨leads, node, found, file, mayRead, mayWrite⟩ := h
    have holds : tree.content? id = some (.file old) := content?_eq_some_iff.mpr ⟨node, found, file⟩
    have notDirectory : node.content.kind ≠ .directory := by
      rw [file]
      exact nofun
    exact ⟨stat_file_iff.mpr ⟨id, old, leads, holds⟩,
      openFile_ok_iff.mpr ⟨leads, node, found, notDirectory, mayRead, mayWrite⟩, holds⟩
  · intro h
    obtain ⟨-, opened, holds⟩ := h
    obtain ⟨leads, node, found, -, mayRead, mayWrite⟩ := openFile_ok_iff.mp opened
    obtain ⟨node', found', file⟩ := content?_eq_some_iff.mp holds
    rw [found] at found'
    cases found'
    exact ⟨leads, node, found, file, mayRead, mayWrite⟩

/-- What can be revised is an editable file whose bytes have a revision. -/
theorem revises_iff : tree.Revises path id old new ↔ tree.Editable path id old ∧ IsRevision old new := by
  rw [editable_iff]
  constructor
  · intro h
    exact ⟨⟨h.stat, h.opened, h.content⟩, h.revision⟩
  · intro h
    obtain ⟨⟨stat, opened, content⟩, revision⟩ := h
    exact ⟨stat, opened, content, revision⟩

/-! ## Looking at a tree in which a file was rewritten -/

/-- Between two trees the file `id` has been given the bytes `new`, and that is all. -/
structure Rewritten (tree after : Tree) (id : NodeId) (new : Bytes) : Prop where
  /-- The file holds the new bytes and nothing behind them. -/
  holds : after.content? id = some (.file new)
  /-- Every path leads where it led, a link at its end followed or not. -/
  leads : ∀ path last, after.resolve path last = tree.resolve path last
  /-- By every path that leads to the file, the new bytes are read. -/
  read : ∀ path, tree.resolve path true = .ok id → after.bytesAt? path = some new
  /-- By any other path, what is read is what was read before. -/
  readElsewhere : ∀ path, tree.resolve path true ≠ .ok id → after.bytesAt? path = tree.bytesAt? path
  /-- Every other node is as it was. -/
  others : ∀ other, other ≠ id → after.node? other = tree.node? other
  /-- Kinds, entries, targets, permission bits and owners are as they were, those of the file included. -/
  alike : tree.Alike after

/-- Of a path that leads to a node which is as it was, the same is read as before. -/
theorem bytesAt?_congr (alike : tree.Alike after)
    (same : ∀ id, tree.resolve path true = .ok id → after.node? id = tree.node? id) :
    after.bytesAt? path = tree.bytesAt? path := by
  simp only [bytesAt?, alike.resolve, alike.user]
  cases leads : tree.resolve path true with
  | error fault => rfl
  | ok id => simp only [same id leads]

/-- **Replacing the bytes of an editable file rewrites it.** It holds the new bytes and nothing behind them, by
whatever path or link it is read. All other nodes are as they were, and so is everything about this one that is not
its bytes. -/
theorem rewritten_replaceContents (h : tree.Editable path id old) (new : Bytes) :
    tree.Rewritten (tree.replaceContents id new) id new := by
  have alike := alike_replaceContents tree id new
  have others : ∀ other, other ≠ id → (tree.replaceContents id new).node? other = tree.node? other := by
    intro other differ
    exact node?_replaceContents_of_ne differ new
  have holds := content?_replaceContents (editable_iff.mp h).2.2 new
  have leads : ∀ path last, (tree.replaceContents id new).resolve path last = tree.resolve path last := by
    intro path last
    exact alike.resolve path last
  refine ⟨holds, leads, ?_, ?_, others, alike⟩
  · intro other leadsThere
    obtain ⟨node, found, file⟩ := content?_eq_some_iff.mp holds
    -- Who may read the file is part of its face, which stays.
    have stillEditable := editable_iff.mpr
      ⟨(alike.stat path).trans (editable_iff.mp h).1, (alike.openFile path).trans (editable_iff.mp h).2.1, holds⟩
    obtain ⟨-, node', found', -, mayRead, -⟩ := stillEditable
    rw [found] at found'
    cases found'
    exact bytesAt?_eq_some_iff.mpr ⟨id, node, (leads other true).trans leadsThere, found, file, mayRead⟩
  · intro other leadsElsewhere
    apply bytesAt?_congr alike
    intro place leadsThere
    apply others
    rintro rfl
    exact leadsElsewhere leadsThere

/-! ## Success -/

/-- **The revision of bytes** is the layout of the document in them, once that has been relabelled. There is one
exactly if they are a text of an object with a member of the old name. -/
theorem isRevision_iff :
    IsRevision old new ↔ ∃ members, Document.read old = .ok (.object members) ∧ sourceName ∈ Members.names members ∧
      new = ((Document.object members).relabel sourceName targetName).2.layout := by
  constructor
  · intro h
    obtain ⟨document, relabelled, read, relabel, rfl⟩ := h
    obtain ⟨members, rfl, there, -⟩ := Document.relabel_true_iff.mp relabel
    exact ⟨members, read, there, by rw [relabel]⟩
  · intro h
    obtain ⟨members, read, there, rfl⟩ := h
    have relabel := Document.relabel_true_iff.mpr
      ⟨members, rfl, there, (rfl : Document.object (Members.relabel members sourceName targetName) = _)⟩
    exact ⟨_, _, read, relabel, by rw [relabel]⟩

/-- **A file is rewritten with what the formatter writes** of the relabelled document, callback by callback and from a
fresh formatter on. -/
theorem isRevision_iff_render? :
    IsRevision old new ↔ ∃ document relabelled, Document.read old = .ok document ∧
      document.relabel sourceName targetName = (true, relabelled) ∧ relabelled.render? = some new := by
  simp only [IsRevision, Document.render?_eq, Option.some.injEq, eq_comm (a := new)]

/-- **A revision succeeds exactly on an editable file whose bytes are an object with the member, and it rewrites that
file.** The new bytes are the layout of the relabelled document. -/
theorem reviseFile_ok_iff (tree : Tree) (path : Path) :
    ((tree.reviseFile path).1 = .ok () ↔
        ∃ id old members, tree.Editable path id old ∧ Document.read old = .ok (.object members) ∧
          sourceName ∈ Members.names members) ∧
      ∀ id old members, tree.Editable path id old → Document.read old = .ok (.object members) →
        sourceName ∈ Members.names members →
          tree.Rewritten (tree.reviseFile path).2 id
            ((Document.object members).relabel sourceName targetName).2.layout := by
  have revises : ∀ id old members, tree.Editable path id old → Document.read old = .ok (.object members) →
      sourceName ∈ Members.names members →
      tree.Revises path id old ((Document.object members).relabel sourceName targetName).2.layout := by
    intro id old members editable read there
    exact revises_iff.mpr ⟨editable, isRevision_iff.mpr ⟨members, read, there, rfl⟩⟩
  constructor
  · constructor
    · intro h
      obtain ⟨id, old, new, its, -⟩ := revises_of_reviseFile (Prod.ext h rfl)
      obtain ⟨editable, revision⟩ := revises_iff.mp its
      obtain ⟨members, read, there, -⟩ := isRevision_iff.mp revision
      exact ⟨id, old, members, editable, read, there⟩
    · intro h
      obtain ⟨id, old, members, editable, read, there⟩ := h
      rw [reviseFile_of_revises (revises id old members editable read there)]
  · intro id old members editable read there
    rw [reviseFile_of_revises (revises id old members editable read there)]
    exact rewritten_replaceContents editable _

/-- A working directory with a file that has two names, one of them in a directory, and with a link to it. What the
file holds is longer than its revision. -/
@[irreducible]
def aliasedTree : Tree where
  nodes :=
    [⟨.directory 0 [(Ascii.bytes "d", 1), (Ascii.bytes "b", 2), (Ascii.bytes "s", 3), (Ascii.bytes "c", 4)],
        0o755, .owner⟩,
      ⟨.directory 0 [(Ascii.bytes "a", 2)], 0o755, .owner⟩,
      ⟨.file (Ascii.bytes "\x7b         \"with\"         :         1         \x7d\n\n"), 0o4640, .owner⟩,
      ⟨.link (.ofString "d/a"), 0o777, .owner⟩,
      ⟨.file (Ascii.bytes "\x7b\"with\":1\x7d"), 0o644, .owner⟩]
  here := 0
  user := .ordinary

/-- Revised through the link, the file shows the new bytes under its other names; a file beside it is as it was. -/
theorem reviseFile_ok_iff_aliased :
    let after := (aliasedTree.reviseFile (.ofString "s")).2
    (∃ old members, aliasedTree.Editable (.ofString "s") 2 old ∧ Document.read old = .ok (.object members) ∧
        sourceName ∈ Members.names members) ∧
      after.bytesAt? (.ofString "b") = some (Ascii.bytes "\x7b\n    \"expected\": 1\n\x7d") ∧
      after.bytesAt? (.ofString "d/a") = after.bytesAt? (.ofString "b") ∧
      after.bytesAt? (.ofString "c") = aliasedTree.bytesAt? (.ofString "c") := by
  intro after
  obtain ⟨succeeds, rewrites⟩ := reviseFile_ok_iff aliasedTree (.ofString "s")
  obtain ⟨id, old, members, editable, read, there⟩ := succeeds.mp (by decide +kernel)
  have rewritten := rewrites id old members editable read there
  have place : aliasedTree.resolve (.ofString "s") true = .ok 2 := by decide +kernel
  obtain rfl : 2 = id := Except.ok.inj (place.symm.trans editable.1)
  have written : after.content? 2 = some (.file (Ascii.bytes "\x7b\n    \"expected\": 1\n\x7d")) := by
    decide +kernel
  have layout := rewritten.holds.symm.trans written
  rw [Option.some.injEq, Content.file.injEq] at layout
  rw [layout] at rewritten
  have other := rewritten.read (.ofString "b") (by decide +kernel)
  refine ⟨⟨old, members, editable, read, there⟩, other, ?_, ?_⟩
  · rw [other]
    exact rewritten.read (.ofString "d/a") (by decide +kernel)
  · exact rewritten.readElsewhere (.ofString "c") (by decide +kernel)

end Tree
end Relabel
