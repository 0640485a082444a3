import Gatehouse.Text.Blank
import Gatehouse.Text.Letter
import Mathlib.Data.List.TakeWhile

/-!
# How classes of characters overlap

Letters that have a case are alphanumeric (`isAlphanumeric_of_isUpper`,
`isAlphanumeric_of_isLower`), and no letter has both cases (`isLower_of_isUpper`). White space is
not alphanumeric (`isAlphanumeric_of_isBlank`).

Each of these is a fact about two tables, and it is settled by a test that passes through both of
them once : `areWithin` for ranges that cover the code points of a table, `areApart` for tables that
have none in common.
-/

namespace Gatehouse.Text

/-! ## Tables -/

/-- The code points of a table, in its order. -/
def points (table : List (Nat × Nat × Nat)) : List Nat :=
  table.flatMap fun (first, last, step) =>
    (List.range ((last - first) / step + 1)).map fun k => first + step * k

theorem mem_points {table : List (Nat × Nat × Nat)} {n : Nat} (h : inSteps table n = true) :
    n ∈ points table := by
  obtain ⟨⟨first, last, step⟩, hmem, hn⟩ := List.any_eq_true.mp h
  simp only [Bool.and_eq_true, decide_eq_true_eq, beq_iff_eq] at hn
  obtain ⟨⟨hfirst, hlast⟩, hstep⟩ := hn
  refine List.mem_flatMap.mpr ⟨_, hmem, List.mem_map.mpr ⟨(n - first) / step, ?_, ?_⟩⟩
  · have hle : (n - first) / step ≤ (last - first) / step := Nat.div_le_div_right (by omega)
    exact List.mem_range.mpr (by omega)
  · have hdiv := Nat.div_add_mod (n - first) step
    omega

/-- Whether code points lie in ranges, when both are read in order. -/
def areWithin : List (Nat × Nat) → List Nat → Bool
  | [], ns => ns.isEmpty
  | (first, last) :: table, ns =>
    areWithin table (ns.dropWhile fun n => first ≤ n && n ≤ last)

theorem inRanges_of_areWithin : ∀ {table : List (Nat × Nat)} {ns : List Nat},
    areWithin table ns = true → ∀ n ∈ ns, inRanges table n = true
  | [], ns, h, n, hn => by
    rw [areWithin, List.isEmpty_iff] at h
    rw [h] at hn
    cases hn
  | (first, last) :: table, ns, h, n, hn => by
    rw [areWithin] at h
    rw [inRanges, List.any_cons, Bool.or_eq_true]
    rw [← List.takeWhile_append_dropWhile (p := fun n => first ≤ n && n ≤ last) (l := ns)] at hn
    rcases List.mem_append.mp hn with hn | hn
    · exact Or.inl (List.mem_takeWhile_imp (p := fun n => first ≤ n && n ≤ last) hn)
    · exact Or.inr (inRanges_of_areWithin h n hn)

/-- Whether the code points of a range with steps are all even or all odd. -/
def isOfOneParity : Nat × Nat × Nat → Bool
  | (first, last, step) => first == last || step % 2 == 0

/-- Whether ranges with steps lie apart, or the one has even code points and the other odd ones. -/
def areApart (r s : Nat × Nat × Nat) : Bool :=
  r.2.1.blt s.1 || s.2.1.blt r.1 ||
    isOfOneParity r && isOfOneParity s && (r.1 + s.1) % 2 == 1

/-- A row of one parity holds no number of the other. -/
theorem mod_two_of_isOfOneParity {first last step n : Nat}
    (h : isOfOneParity (first, last, step) = true) (hfirst : first ≤ n) (hlast : n ≤ last)
    (hstep : (n - first) % step = 0) : n % 2 = first % 2 := by
  simp only [isOfOneParity, Bool.or_eq_true, beq_iff_eq] at h
  rcases h with h | h
  · obtain rfl : n = first := by omega
    rfl
  · have hdvd : 2 ∣ n - first := Nat.dvd_trans (Nat.dvd_of_mod_eq_zero h)
      (Nat.dvd_of_mod_eq_zero hstep)
    omega

/-- Tables of which any two rows are apart have no number in common. -/
theorem not_inSteps_of_areApart {t u : List (Nat × Nat × Nat)}
    (h : t.all (fun r => u.all fun s => areApart r s) = true) {n : Nat} (hn : inSteps t n = true) :
    inSteps u n = false := by
  obtain ⟨⟨first, last, step⟩, hr, hn⟩ := List.any_eq_true.mp hn
  refine List.any_eq_false.mpr fun ⟨first', last', step'⟩ hs hn' => ?_
  have happart := List.all_eq_true.mp (List.all_eq_true.mp h _ hr) _ hs
  simp only [Bool.and_eq_true, decide_eq_true_eq, beq_iff_eq] at hn hn'
  obtain ⟨⟨hfirst, hlast⟩, hstep⟩ := hn
  obtain ⟨⟨hfirst', hlast'⟩, hstep'⟩ := hn'
  simp only [areApart, Bool.or_eq_true, Bool.and_eq_true, Nat.blt_eq, beq_iff_eq] at happart
  rcases happart with (hbefore | hbehind) | ⟨⟨hparity, hparity'⟩, hodd⟩
  · omega
  · omega
  · have hmod := mod_two_of_isOfOneParity hparity hfirst hlast hstep
    have hmod' := mod_two_of_isOfOneParity hparity' hfirst' hlast' hstep'
    omega

/-- Ranges of which any two are apart have no number in common. -/
theorem not_inRanges_of_apart {t u : List (Nat × Nat)}
    (h : t.all (fun r => u.all fun s => r.2 < s.1 || s.2 < r.1) = true) {n : Nat}
    (hn : inRanges t n = true) : inRanges u n = false := by
  obtain ⟨⟨first, last⟩, hr, hn⟩ := List.any_eq_true.mp hn
  refine List.any_eq_false.mpr fun ⟨first', last'⟩ hs hn' => ?_
  have happart := List.all_eq_true.mp (List.all_eq_true.mp h _ hr) _ hs
  simp only [Bool.and_eq_true, Bool.or_eq_true, decide_eq_true_eq] at hn hn' happart
  omega

/-! ## Classes -/

variable {c : Char}

theorem isAlphanumeric_of_isNumeric (h : isNumeric c = true) : isAlphanumeric c = true := by
  rw [isAlphanumeric, h, Bool.or_true]

theorem isAlphanumeric_of_isUpper (h : isUpper c = true) : isAlphanumeric c = true := by
  have htables : areWithin alphabeticTable (points upperTable) = true := by decide +kernel
  rw [isAlphanumeric, isAlphabetic, inRanges_of_areWithin htables _ (mem_points h), Bool.true_or]

theorem isAlphanumeric_of_isLower (h : isLower c = true) : isAlphanumeric c = true := by
  have htables : areWithin alphabeticTable (points lowerTable) = true := by decide +kernel
  rw [isAlphanumeric, isAlphabetic, inRanges_of_areWithin htables _ (mem_points h), Bool.true_or]

/-- No letter is of both cases. -/
theorem isLower_of_isUpper (h : isUpper c = true) : isLower c = false := by
  have htables : upperTable.all (fun r => lowerTable.all fun s => areApart r s) = true := by
    decide +kernel
  exact not_inSteps_of_areApart htables h

theorem isAlphanumeric_of_isBlank (h : isBlank c = true) : isAlphanumeric c = false := by
  have hletters : blankTable.all (fun r => alphabeticTable.all fun s => r.2 < s.1 || s.2 < r.1) =
      true := by decide +kernel
  have hnumbers : blankTable.all (fun r => numericTable.all fun s => r.2 < s.1 || s.2 < r.1) =
      true := by decide +kernel
  rw [isAlphanumeric, isAlphabetic, isNumeric, not_inRanges_of_apart hletters h,
    not_inRanges_of_apart hnumbers h]
  rfl

end Gatehouse.Text
