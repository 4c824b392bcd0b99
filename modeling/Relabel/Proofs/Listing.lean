import Relabel.Entry
import Relabel.Proofs.File.Access

/-!
# What a directory lists

The entries of a directory are its names, in the order in which it lists them, each joined to the directory's path
and looked at through links (`entries_ok_iff`). An entry is called by the name it has in the directory, read as text
as far as it is text (`nameOf_join`), however the path of the directory is spelled: with a slash at its end or
without, through links or not.
-/

namespace Relabel

/-! ## Pieces -/

section

variable {α : Type} [DecidableEq α] {separator : α}

theorem pieces_ne_nil (separator : α) (run : List α) : pieces separator run ≠ [] := by
  unfold pieces
  split
  · exact List.cons_ne_nil _ _
  · split
    · exact List.cons_ne_nil _ _
    · split <;> exact List.cons_ne_nil _ _

/-- A run without the separator is one piece. -/
theorem pieces_of_notMem {run : List α} (h : separator ∉ run) : pieces separator run = [run] := by
  induction run with
  | nil => rfl
  | cons x rest ih =>
    rw [List.mem_cons, not_or] at h
    simp only [pieces, if_neg (Ne.symm h.1), ih h.2]

/-- A separator parts the pieces in front of it from those behind it. -/
theorem pieces_append_cons (front back : List α) :
    pieces separator (front ++ separator :: back) = pieces separator front ++ pieces separator back := by
  induction front with
  | nil => simp only [List.nil_append, pieces, if_true, List.cons_append]
  | cons x rest ih =>
    rw [List.cons_append]
    by_cases h : x = separator
    · simp only [pieces, if_pos h, ih, List.cons_append]
    · obtain ⟨piece, more, hp⟩ := List.exists_cons_of_ne_nil (pieces_ne_nil separator rest)
      simp only [pieces, if_neg h, ih, hp, List.cons_append]

end

namespace Path

/-- A name that an entry of a directory can have. -/
def IsName (name : Name) : Prop :=
  name ≠ [] ∧ Ascii.slash ∉ name ∧ name ≠ dotName ∧ name ≠ dotDotName

instance (name : Name) : Decidable (IsName name) := inferInstanceAs (Decidable (_ ∧ _))

variable {name : Name}

/-- The name of an entry comes after those of the directory. -/
theorem names_join (path : Path) (h : IsName name) : (path.join name).names = path.names ++ [name] := by
  obtain ⟨nonempty, noSlash, -, -⟩ := h
  have last : (pieces Ascii.slash name).filter (!·.isEmpty) = [name] := by
    rw [pieces_of_notMem noSlash, List.filter_cons_of_pos (by simpa using nonempty), List.filter_nil]
  have uncounted : (pieces Ascii.slash ([] : Bytes)).filter (!·.isEmpty) = [] := rfl
  unfold join names
  split
  · next slash =>
    -- The slash is there already, and behind it the path itself has an empty piece that does not count.
    obtain ⟨front, hfront⟩ := List.getLast?_eq_some_iff.mp (beq_iff_eq.mp slash)
    rw [hfront, List.append_assoc, List.singleton_append, pieces_append_cons, pieces_append_cons,
      List.filter_append, List.filter_append, last, uncounted, List.append_nil]
  · rw [pieces_append_cons, List.filter_append, last]

/-- The path of an entry ends in the entry's name. -/
theorem fileName?_join (path : Path) (h : IsName name) : (path.join name).fileName? = some name := by
  have names := names_join path h
  obtain ⟨-, -, notDot, notDotDot⟩ := h
  have kept : (name == dotName) = false := beq_false_of_ne notDot
  simp only [fileName?, names, List.reverse_append, List.reverse_singleton, List.singleton_append,
    List.dropWhile_cons, kept, Bool.false_eq_true, if_false, List.head?_cons, if_neg notDotDot]

end Path

/-- **An entry is called by its name in the directory.** -/
theorem Entry.nameOf_join (path : Path) {name : Name} (h : Path.IsName name) :
    Entry.nameOf (path.join name) = Utf8.decodeLossy name := by
  unfold nameOf
  rw [Path.fileName?_join path h]

namespace Tree

variable {tree : Tree} {path : Path} {entries : List Entry}

/-- **The entries of a directory are those of its names**, and they are there whenever the names can be read. Nothing
else is asked of what is found: a name that leads nowhere is an entry like any other. -/
theorem entries_ok_iff :
    tree.entries path = .ok entries ↔
      ∃ names, tree.entryNames path = .ok names ∧
        entries = names.map fun name => Entry.ofPath tree (path.join name) := by
  unfold Tree.entries
  constructor
  · intro h
    split at h
    · cases h
    · split at h
      · cases h
      · next names listed =>
        cases h
        exact ⟨names, listed, rfl⟩
    · cases h
  · rintro ⟨names, listed, rfl⟩
    obtain ⟨id, node, above, found, hr, hn, hc, -⟩ := entryNames_ok_iff.mp listed
    have directory : tree.stat path = .ok .directory :=
      stat_ok_iff.mpr ⟨id, _, hr, content?_eq_some_iff.mpr ⟨node, hn, hc⟩, rfl⟩
    simp only [directory, listed]

end Tree
end Relabel
