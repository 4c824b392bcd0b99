import Relabel.Proofs.Output.Stream

/-!
# The share of the entries dealt with

A progress tells what share of the entries has been dealt with, in hundredths. Counts are words of 64 bits, and a
hundred times a count need not be one: the product then stops at the greatest word, and the share is told of that.

**The share behaves all the same** (`Progress.share_laws`). It is computed without dividing by zero and without leaving
the words (`Progress.share?_eq`). It is never beyond a hundred, unless more entries than there are have been dealt with;
it does not fall while entries are dealt with, and it does not rise if there are more of them. Beyond the greatest word
exactness is lost, and nothing else: a product that stops is too small, but it is not smaller than that of a smaller
count.
-/

namespace Relabel

/-! ## Words -/

namespace Word

/-- The product of two words, if it is a word. -/
def checkedMul? (a b : UInt64) : Option UInt64 :=
  if a.toNat * b.toNat ≤ Progress.greatestCount then some (a * b) else none

/-- The product of two words, or the greatest word where the product is none. -/
def saturatingMul (a b : UInt64) : UInt64 := (checkedMul? a b).getD (.ofNat Progress.greatestCount)

/-- The quotient of two words, which nothing has if it is to be divided by zero. -/
def checkedDiv? (a b : UInt64) : Option UInt64 := if b = 0 then none else some (a / b)

/-- A product that would leave the words stops at the greatest of them. -/
theorem toNat_saturatingMul (a b : UInt64) :
    (saturatingMul a b).toNat = min (a.toNat * b.toNat) Progress.greatestCount := by
  unfold saturatingMul checkedMul?
  split
  · next fits =>
    have word : a.toNat * b.toNat < 2 ^ 64 := Nat.lt_succ_of_le fits
    rw [Option.getD_some, UInt64.toNat_mul, Nat.mod_eq_of_lt word, Nat.min_eq_left fits]
  · next beyond =>
    rw [Option.getD_none, Nat.min_eq_right (Nat.le_of_not_le beyond)]
    rfl

end Word

namespace Progress

/-- The share of the entries dealt with, computed on words, if no step of the computation fails. -/
def share? (processed total : UInt64) : Option UInt64 :=
  if total = 0 then some 0 else Word.checkedDiv? (Word.saturatingMul processed 100) total

/-- **No step fails, and the share on words is the share.** The product stops at the greatest word, the quotient is
not one by zero, because that case has been taken out before, and it is a word since the product is one. -/
theorem share?_eq (processed total : UInt64) :
    ∃ share, share? processed total = some share ∧ share.toNat = percent processed.toNat total.toNat := by
  unfold share? percent
  by_cases zero : total = 0
  · rw [if_pos zero, zero]
    exact ⟨0, rfl, rfl⟩
  · have divisor : total.toNat ≠ 0 := fun same => zero (UInt64.toNat_inj.mp same)
    refine ⟨_, by rw [if_neg zero, Word.checkedDiv?, if_neg zero], ?_⟩
    rw [if_neg divisor, UInt64.toNat_div, Word.toNat_saturatingMul]
    rfl

/-! ## Laws -/

variable {processed processed' total total' : Nat}

theorem percent_le_hundred (h : processed ≤ total) : percent processed total ≤ 100 := by
  unfold percent
  split
  · exact Nat.zero_le _
  · have product : min (processed * 100) greatestCount ≤ total * 100 :=
      Nat.le_trans (Nat.min_le_left _ _) (Nat.mul_le_mul_right 100 h)
    exact Nat.div_le_of_le_mul product

/-- The share does not fall when more entries have been dealt with, not even across the count at which the product
stops. -/
theorem percent_le_percent (h : processed ≤ processed') : percent processed total ≤ percent processed' total := by
  unfold percent
  split
  · exact Nat.le_refl _
  · -- Stopping at the greatest word keeps the order of the products.
    have products : min (processed * 100) greatestCount ≤ min (processed' * 100) greatestCount := by omega
    exact Nat.div_le_div_right products

theorem percent_le_of_total_le (positive : 0 < total) (h : total ≤ total') :
    percent processed total' ≤ percent processed total := by
  have positive' : 0 < total' := Nat.lt_of_lt_of_le positive h
  unfold percent
  rw [if_neg (Nat.ne_of_gt positive), if_neg (Nat.ne_of_gt positive')]
  exact Nat.div_le_div_left h positive

/-- What is read from the line of a progress. -/
theorem read_line (progress : Progress) :
    Document.read (Event.progress progress).line = .ok (message "progress" progress.view) :=
  Document.read_compact (Event.wellFormed_document (progress.wellFormed_view _))

/-- **The share of the entries dealt with.** For any two words it is computed without dividing by zero and without
leaving the words, and it is what another program reads from the line of the progress. It is at most a hundred if no
more entries have been dealt with than there are, it does not fall when more entries have been dealt with, and it does
not rise when there are more. As long as a hundred times the count is a word, it is the quotient rounded down. -/
theorem share_laws :
    (∀ processed total : UInt64, ∃ share : UInt64,
      share? processed total = some share ∧ share.toNat = percent processed.toNat total.toNat ∧
        ∀ entry status, ∃ data,
          Document.read (Event.progress ⟨processed.toNat, total.toNat, entry, status⟩).line =
            .ok (message "progress" data) ∧
          data.get? "percent" = some (.ofNat share.toNat)) ∧
      (∀ processed total, processed ≤ total → percent processed total ≤ 100) ∧
      (∀ processed processed' total, processed ≤ processed' → percent processed total ≤ percent processed' total) ∧
      (∀ processed total total', 0 < total → total ≤ total' → percent processed total' ≤ percent processed total) ∧
      (∀ processed total, 0 < total → 100 * processed < UInt64.size →
        percent processed total = 100 * processed / total) := by
  refine ⟨fun processed total => ?_, fun _ _ => percent_le_hundred, fun _ _ _ => percent_le_percent,
    fun _ _ _ => percent_le_of_total_le, fun _ _ _ word => percent_eq (Nat.le_of_lt_succ word)⟩
  obtain ⟨share, computed, same⟩ := share?_eq processed total
  refine ⟨share, computed, same, fun entry status => ⟨_, read_line _, ?_⟩⟩
  rw [same]
  rfl

/-- The greatest count is one hundredth of half as many entries and one, and not a hundred and ninety-nine, because its
product stops. The greatest count with a product that does not stop has its exact share. -/
theorem share_laws_stopped :
    share? 0xffffffffffffffff 0x8000000000000000 = some 1 ∧ percent 0xffffffffffffffff 0x8000000000000000 = 1 ∧
      percent 0xffffffffffffffff 0xffffffffffffffff ≤ 100 ∧
      percent 0x28f5c28f5c28f5c 0x8000000000000000 ≤ percent 0x28f5c28f5c28f5d 0x8000000000000000 ∧
      percent 0xffffffffffffffff 0xffffffffffffffff ≤ percent 0xffffffffffffffff 1 ∧
      percent 0x28f5c28f5c28f5c 3 = 100 * 0x28f5c28f5c28f5c / 3 := by
  obtain ⟨computed, bounded, grows, falls, precise⟩ := share_laws
  obtain ⟨share, onWords, same, -⟩ := computed 0xffffffffffffffff 0x8000000000000000
  have value : share? 0xffffffffffffffff 0x8000000000000000 = some 1 := by decide +kernel
  rw [value] at onWords
  cases onWords
  exact ⟨value, same.symm, bounded _ _ (by decide), grows _ _ _ (by decide), falls _ _ _ (by decide) (by decide),
    precise _ _ (by decide) (by decide)⟩

end Progress
end Relabel
