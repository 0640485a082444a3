import Gatehouse.Number.Width
import Mathlib.Tactic.SplitIfs

/-!
# Words of 64 bits

Arithmetic on words with a sign is exact as long as the result fits into a word. A checked product
is one that says when it does not (`Word.checkedMul?_eq_some_iff`).
-/

namespace Gatehouse

/-- The numbers of 64 bits, outright. -/
theorem Width.fitsSigned_iff {n : Int} : fitsSigned n = true ↔
    -9223372036854775808 ≤ n ∧ n ≤ 9223372036854775807 := by
  rw [fitsSigned, Bool.and_eq_true, decide_eq_true_eq, decide_eq_true_eq]

namespace Word

open Width (fitsSigned fitsSigned_iff)

variable {a b c : Int64}

theorem fitsSigned_toInt (a : Int64) : fitsSigned a.toInt = true :=
  fitsSigned_iff.mpr ⟨a.le_toInt, Int.le_of_lt_add_one a.toInt_lt⟩

theorem toInt_ofInt {n : Int} (h : fitsSigned n = true) : (Int64.ofInt n).toInt = n := by
  obtain ⟨hlow, hhigh⟩ := fitsSigned_iff.mp h
  exact Int64.toInt_ofInt_of_le hlow (Int.lt_add_one_of_le hhigh)

/-- A sum that fits does not wrap. -/
theorem toInt_add (h : fitsSigned (a.toInt + b.toInt) = true) :
    (a + b).toInt = a.toInt + b.toInt := by
  obtain ⟨hlow, hhigh⟩ := fitsSigned_iff.mp h
  rw [Int64.toInt_add]
  exact Int.bmod_eq_of_le (by omega) (by omega)

theorem toInt_mul (h : fitsSigned (a.toInt * b.toInt) = true) :
    (a * b).toInt = a.toInt * b.toInt := by
  obtain ⟨hlow, hhigh⟩ := fitsSigned_iff.mp h
  rw [Int64.toInt_mul]
  exact Int.bmod_eq_of_le (by omega) (by omega)

/-- The product of two words, if it is a word. -/
def checkedMul? (a b : Int64) : Option Int64 :=
  if fitsSigned (a.toInt * b.toInt) then some (a * b) else none

/-- A checked product is there exactly if a word is the product of the numbers. -/
theorem checkedMul?_eq_some_iff : checkedMul? a b = some c ↔ c.toInt = a.toInt * b.toInt := by
  rw [checkedMul?]
  constructor
  · intro h
    split_ifs at h with hfits
    obtain rfl := Option.some.inj h
    exact toInt_mul hfits
  · intro h
    have hfits : fitsSigned (a.toInt * b.toInt) = true := h ▸ fitsSigned_toInt c
    rw [if_pos hfits, Option.some.injEq, ← Int64.toInt_inj, toInt_mul hfits, h]

end Word

end Gatehouse
