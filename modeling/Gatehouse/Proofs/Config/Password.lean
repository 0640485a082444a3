import Gatehouse.Config.Password
import Gatehouse.Proofs.Text.Letter
import Mathlib.Data.List.Perm.Basic

/-!
# Passwords in any order

A password is looked at character by character, and each counts for the first class that it belongs
to. But the classes overlap only where it does not matter (`Seen.next_eq`) : nothing that is
forbidden counts for a class, and whatever is neither alphanumeric nor a control character is no
letter. So what a password has shown at its end is what its characters are, in whatever order they
stand (`isComplexFrom_iff`), and the rule is one on the set of its characters (`IsStrong`,
`isComplex_airtight`).
-/

namespace Gatehouse.Password

/-! ## One character -/

/-- Upper-case letters that are not numeric. -/
def isCapital (c : Char) : Bool :=
  Text.isUpper c && !Text.isNumeric c

/-- Lower-case letters that are not numeric. -/
def isSmall (c : Char) : Bool :=
  Text.isLower c && !Text.isNumeric c

/-- Characters that show and are neither letters nor numbers. -/
def isSpecial (c : Char) : Bool :=
  !Text.isAlphanumeric c && !Text.isControl c

variable {c : Char}

/-- No forbidden character is a letter or a number. -/
theorem isAlphanumeric_of_isForbidden (h : isForbidden c = true) :
    Text.isAlphanumeric c = false := by
  simp only [isForbidden, Bool.or_eq_true, beq_iff_eq] at h
  rcases h with ((rfl | rfl) | rfl) | h
  · decide +kernel
  · decide +kernel
  · decide +kernel
  · exact Text.isAlphanumeric_of_isBlank h

/-- What is forbidden shows nothing, and any other character shows the classes that it is in. -/
theorem Seen.next_eq (s : Seen) (c : Char) :
    s.next c = if isForbidden c then none else
      some ⟨s.number || Text.isNumeric c, s.upper || isCapital c, s.lower || isSmall c,
        s.special || isSpecial c⟩ := by
  by_cases hforbidden : isForbidden c = true
  · -- The test comes fourth, but no forbidden character gets caught by the three before it.
    have hnone {p : Prop} (h : p → Text.isAlphanumeric c = true) : ¬p := fun hp =>
      Bool.eq_false_iff.mp (isAlphanumeric_of_isForbidden hforbidden) (h hp)
    rw [next, if_neg (hnone Text.isAlphanumeric_of_isNumeric),
      if_neg (hnone Text.isAlphanumeric_of_isUpper), if_neg (hnone Text.isAlphanumeric_of_isLower),
      if_pos hforbidden, if_pos hforbidden]
  rw [if_neg hforbidden, next]
  split_ifs with hnumber hupper hlower hspecial
  · simp [isCapital, isSmall, isSpecial, hnumber, Text.isAlphanumeric_of_isNumeric hnumber]
  · simp [isCapital, isSmall, isSpecial, hnumber, hupper, Text.isLower_of_isUpper hupper,
      Text.isAlphanumeric_of_isUpper hupper]
  · simp [isCapital, isSmall, isSpecial, hnumber, hupper, hlower,
      Text.isAlphanumeric_of_isLower hlower]
  · simp [isCapital, isSmall, isSpecial, hnumber, hupper, hlower, hspecial]
  · simp [isCapital, isSmall, isSpecial, hnumber, hupper, hlower, hspecial]

/-! ## All characters -/

/-- No character is forbidden, and every class is shown by one of them. -/
structure IsStrong (text : List Char) : Prop where
  allowed : ∀ c ∈ text, isForbidden c = false
  number : ∃ c ∈ text, Text.isNumeric c = true
  upper : ∃ c ∈ text, isCapital c = true
  lower : ∃ c ∈ text, isSmall c = true
  special : ∃ c ∈ text, isSpecial c = true

/-- One pass finds whatever has not been seen before in the rest of the text. -/
theorem isComplexFrom_iff {text : List Char} : ∀ {s : Seen}, isComplexFrom s text = true ↔
    (∀ c ∈ text, isForbidden c = false) ∧ (s.number = true ∨ ∃ c ∈ text, Text.isNumeric c = true) ∧
      (s.upper = true ∨ ∃ c ∈ text, isCapital c = true) ∧
      (s.lower = true ∨ ∃ c ∈ text, isSmall c = true) ∧
      (s.special = true ∨ ∃ c ∈ text, isSpecial c = true) := by
  induction text with
  | nil =>
    intro s
    simp [isComplexFrom, Seen.all, and_assoc]
  | cons c text ih =>
    intro s
    rw [isComplexFrom, Seen.next_eq]
    split_ifs with hforbidden
    · simp [hforbidden]
    · rw [Bool.not_eq_true] at hforbidden
      simp [ih, hforbidden, or_assoc]

/-- The pass over a text tells the strong ones from all others. -/
theorem isComplex_iff {s : String} : isComplex s = true ↔ IsStrong s.toList := by
  rw [isComplex, isComplexFrom_iff]
  simp only [Bool.false_eq_true, false_or]
  exact ⟨fun ⟨h₁, h₂, h₃, h₄, h₅⟩ => ⟨h₁, h₂, h₃, h₄, h₅⟩,
    fun ⟨h₁, h₂, h₃, h₄, h₅⟩ => ⟨h₁, h₂, h₃, h₄, h₅⟩⟩

namespace IsStrong

variable {text text' : List Char}

/-- Characters count wherever they stand, and more of them do no harm unless one is forbidden. -/
theorem of_subset (h : IsStrong text) (hsubset : text ⊆ text')
    (hallowed : ∀ c ∈ text', isForbidden c = false) : IsStrong text' := by
  have hmem {p : Char → Bool} : (∃ c ∈ text, p c = true) → ∃ c ∈ text', p c = true :=
    fun ⟨c, hc, hp⟩ => ⟨c, hsubset hc, hp⟩
  exact ⟨hallowed, hmem h.number, hmem h.upper, hmem h.lower, hmem h.special⟩

theorem of_perm (h : IsStrong text) (hperm : text'.Perm text) : IsStrong text' :=
  h.of_subset hperm.symm.subset fun c hc => h.allowed c (hperm.subset hc)

end IsStrong

/-- A password keeps the rule exactly if it is strong. So all its reorderings keep it or none does,
a forbidden character breaks it wherever it is put in, and any other character leaves it kept. -/
theorem isComplex_airtight (s : String) :
    (isComplex s = true ↔ IsStrong s.toList) ∧
    (∀ t : String, t.toList.Perm s.toList → isComplex t = isComplex s) ∧
    ∀ (before after : List Char) (c : Char), s.toList = before ++ after →
      (isForbidden c = true → isComplex (String.ofList (before ++ c :: after)) = false) ∧
      (isForbidden c = false → isComplex s = true →
        isComplex (String.ofList (before ++ c :: after)) = true) := by
  refine ⟨isComplex_iff, fun t hperm => ?_, fun before after c hs => ⟨fun hc => ?_, fun hc h => ?_⟩⟩
  · rw [Bool.eq_iff_iff, isComplex_iff, isComplex_iff]
    exact ⟨fun h => h.of_perm hperm.symm, fun h => h.of_perm hperm⟩
  · refine Bool.eq_false_iff.mpr fun h => ?_
    rw [isComplex_iff, String.toList_ofList] at h
    rw [h.allowed c (by simp)] at hc
    cases hc
  · rw [isComplex_iff, hs] at h
    rw [isComplex_iff, String.toList_ofList]
    refine h.of_subset (by simp) fun d hd => ?_
    rcases List.mem_cons.mp (List.perm_middle.subset hd) with rfl | hd
    · exact hc
    · exact h.allowed d hd

/-- A strong password, one of its reorderings, and a space and a letter put into it. -/
theorem isComplex_airtight_valid :
    IsStrong "ValidP@ssw0rd".toList ∧ isComplex "dr0wss@PdilaV" = true ∧
      isComplex "Valid P@ssw0rd" = false ∧ isComplex "ValidЖP@ssw0rd" = true := by
  obtain ⟨hiff, hperm, hinsert⟩ := isComplex_airtight "ValidP@ssw0rd"
  have hcomplex : isComplex "ValidP@ssw0rd" = true := by decide +kernel
  refine ⟨hiff.mp hcomplex, ?_, ?_, ?_⟩
  · rw [hperm "dr0wss@PdilaV" (by decide), hcomplex]
  · exact (hinsert "Valid".toList "P@ssw0rd".toList ' ' (by decide)).1 (by decide +kernel)
  · exact (hinsert "Valid".toList "P@ssw0rd".toList 'Ж' (by decide)).2 (by decide +kernel) hcomplex

end Gatehouse.Password
