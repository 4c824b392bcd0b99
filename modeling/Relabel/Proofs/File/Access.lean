import Relabel.File.Access

/-!
# What it takes for a request to be granted

Each request for a path walks along the path and then looks at the one node it comes to. For each of them there is
one statement that says when it is granted and with which answer, so that nobody has to take the request apart
again: `stat_ok_iff`, `openFile_ok_iff`, `entryNames_ok_iff` and `bytesAt?_eq_some_iff`.
-/

namespace Relabel
namespace Tree

variable {tree : Tree} {path other : Path} {id : NodeId} {kind : FileKind} {names : List Name} {bytes : Bytes}

theorem content?_eq_some_iff {content : Content} :
    tree.content? id = some content ↔ ∃ node, tree.node? id = some node ∧ node.content = content :=
  Option.map_eq_some_iff

/-- A path has a kind if it leads somewhere, links being followed to the end: the kind is that of the node there. -/
theorem stat_ok_iff :
    tree.stat path = .ok kind ↔
      ∃ id content, tree.resolve path true = .ok id ∧ tree.content? id = some content ∧ content.kind = kind := by
  cases hr : tree.resolve path true with
  | error fault => simp [stat, hr]
  | ok id => cases hc : tree.content? id <;> simp [stat, hr, hc]

/-- A path leads to a regular file if there are bytes where it leads. -/
theorem stat_file_iff :
    tree.stat path = .ok .file ↔
      ∃ id bytes, tree.resolve path true = .ok id ∧ tree.content? id = some (.file bytes) := by
  rw [stat_ok_iff]
  constructor
  · rintro ⟨id, content, hr, hc, file⟩
    cases content with
    | file bytes => exact ⟨id, bytes, hr, hc⟩
    | directory | link | pipe | device => cases file
  · rintro ⟨id, bytes, hr, hc⟩
    exact ⟨id, .file bytes, hr, hc, rfl⟩

/-- A path is opened as the node it leads to, if that is no directory and the user may read and write it. -/
theorem openFile_ok_iff :
    tree.openFile path = .ok id ↔
      tree.resolve path true = .ok id ∧ ∃ node, tree.node? id = some node ∧ node.content.kind ≠ .directory ∧
        node.allows tree.user .read = true ∧ node.allows tree.user .write = true := by
  constructor
  · intro h
    unfold openFile at h
    split at h
    · cases h
    next found hr =>
      split at h
      · next node hn =>
        split at h
        · cases h
        next notDirectory =>
          split at h
          · next rights =>
            cases h
            rw [Bool.and_eq_true] at rights
            refine ⟨hr, node, hn, fun kind => ?_, rights.1, rights.2⟩
            cases hc : node.content with
            | directory above entries => exact notDirectory above entries hc
            | file | link | pipe | device =>
              rw [hc] at kind
              cases kind
          · cases h
      · cases h
  · rintro ⟨hr, node, hn, notDirectory, mayRead, mayWrite⟩
    cases hc : node.content with
    | directory above entries =>
      rw [hc] at notDirectory
      exact absurd rfl notDirectory
    | file | link | pipe | device => simp [openFile, hr, hn, hc, mayRead, mayWrite]

/-- Of a path only the place where it leads matters. -/
theorem stat_congr (same : tree.resolve path true = tree.resolve other true) : tree.stat path = tree.stat other := by
  simp only [stat, same]

theorem openFile_congr (same : tree.resolve path true = tree.resolve other true) :
    tree.openFile path = tree.openFile other := by
  simp only [openFile, same]

/-- Bytes are read by a path if they are those of a regular file that it leads to and the user may read. -/
theorem bytesAt?_eq_some_iff :
    tree.bytesAt? path = some bytes ↔
      ∃ id node, tree.resolve path true = .ok id ∧ tree.node? id = some node ∧ node.content = .file bytes ∧
        node.allows tree.user .read = true := by
  cases hr : tree.resolve path true with
  | error fault => simp [bytesAt?, hr]
  | ok id =>
    cases hn : tree.node? id with
    | none => simp [bytesAt?, hr, hn]
    | some node => cases hc : node.content <;> simp [bytesAt?, hr, hn, hc, and_comm]

/-- A path is listed if it leads to a directory that the user may read. -/
theorem entryNames_ok_iff :
    tree.entryNames path = .ok names ↔
      ∃ id node above entries, tree.resolve path true = .ok id ∧ tree.node? id = some node ∧
        node.content = .directory above entries ∧ node.allows tree.user .read = true ∧
        names = entries.map Prod.fst := by
  constructor
  · intro h
    unfold entryNames at h
    split at h
    · cases h
    next id hr =>
      split at h
      · next node hn =>
        split at h
        · next above entries hc =>
          split at h
          · next mayRead =>
            cases h
            exact ⟨id, node, above, entries, hr, hn, hc, mayRead, rfl⟩
          · cases h
        · cases h
      · cases h
  · rintro ⟨id, node, above, entries, hr, hn, hc, mayRead, rfl⟩
    simp [entryNames, hr, hn, hc, mayRead]

end Tree
end Relabel
