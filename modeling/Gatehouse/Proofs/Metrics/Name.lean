import Gatehouse.Proofs.Metrics.Exposition

/-!
# Names of metrics

A name of metrics begins with a letter, an underscore or a colon, and may have digits behind that
(`Exposition.IsMetricName`). The exposition writes every metric under such a name
(`Exposition.isMetricName_name`), which is its own name if that is one
(`Exposition.IsMetricName.name_eq`).
-/

namespace Gatehouse.Exposition

/-- Whether a name of metrics may have a character behind its first. -/
def isNameChar (c : Char) : Bool :=
  isNameStart c || c.isDigit

/-- Whether a text is a name of metrics. -/
def IsMetricName (text : String) : Prop :=
  ∃ c rest, text.toList = c :: rest ∧ isNameStart c = true ∧ ∀ d ∈ rest, isNameChar d = true

instance (text : String) : Decidable (IsMetricName text) :=
  match htext : text.toList with
  | [] => isFalse (by rintro ⟨c, rest, hcons, -⟩; cases htext.symm.trans hcons)
  | c :: rest => decidable_of_iff (isNameStart c = true ∧ rest.all isNameChar = true) <| by
      refine ⟨fun h => ⟨c, rest, htext, h.1, List.all_eq_true.mp h.2⟩, ?_⟩
      rintro ⟨d, rest', hcons, hstart, hrest⟩
      obtain ⟨rfl, rfl⟩ := List.cons.inj (htext.symm.trans hcons)
      exact ⟨hstart, List.all_eq_true.mpr hrest⟩

variable {text metric suffix : String}

theorem isNameStart_of_isDigit {c : Char} (h : c.isDigit = true) : isNameStart c = false := by
  obtain ⟨hlow, hhigh⟩ := Json.Reader.toNat_bounds_of_isDigit h
  have hcolon : c ≠ ':' := by
    rintro rfl
    cases h
  have hunderscore : c ≠ '_' := by
    rintro rfl
    cases h
  have halpha : c.isAlpha = false := by
    -- The letters are two ranges of numbers behind the digits.
    change (decide (c.val ≥ 65 ∧ c.val ≤ 90) ||
      (decide (c.val ≥ 97) && decide (c.val ≤ 122))) = false
    rw [Bool.or_eq_false_iff, Bool.and_eq_false_iff, decide_eq_false_iff_not,
      decide_eq_false_iff_not, decide_eq_false_iff_not]
    change ¬(65 ≤ c.toNat ∧ c.toNat ≤ 90) ∧ (¬97 ≤ c.toNat ∨ ¬c.toNat ≤ 122)
    omega
  simp [isNameStart, hcolon, hunderscore, halpha]

theorem exists_toList_eq (h : text ≠ "") : ∃ c rest, text.toList = c :: rest :=
  List.exists_cons_of_ne_nil (mt String.toList_eq_nil_iff.mp h)

/-- Of a name the first character is judged for itself, and each of the rest by the other class. -/
theorem name_of_toList {c : Char} {rest : List Char} (h : text.toList = c :: rest) :
    name text = String.ofList ((if isNameStart c then c else '_') ::
      rest.map fun c => if isNameChar c then c else '_') := by
  rw [name, h]
  rfl

/-- Whatever a metric is called, it is exported under a name of metrics. -/
theorem isMetricName_name (h : text ≠ "") : IsMetricName (name text) := by
  obtain ⟨c, rest, htext⟩ := exists_toList_eq h
  rw [name_of_toList htext]
  refine ⟨_, _, String.toList_ofList, ?_, fun d hd => ?_⟩
  · split_ifs with hc
    · exact hc
    · decide
  · obtain ⟨a, -, rfl⟩ := List.mem_map.mp hd
    split_ifs with ha
    · exact ha
    · decide

/-- A name of metrics is kept. -/
theorem IsMetricName.name_eq (h : IsMetricName text) : name text = text := by
  obtain ⟨c, rest, htext, hc, hrest⟩ := h
  have hkept : (rest.map fun d => if isNameChar d then d else '_') = rest :=
    (List.map_congr_left fun d hd => if_pos (hrest d hd)).trans (List.map_id' rest)
  rw [name_of_toList htext, if_pos hc, hkept, ← htext, String.ofList_toList]

/-- A name goes on with characters that may go on with a name. -/
theorem IsMetricName.append (h : IsMetricName metric)
    (hsuffix : suffix.toList.all isNameChar = true) : IsMetricName (metric ++ suffix) := by
  obtain ⟨c, rest, htext, hstart, hrest⟩ := h
  refine ⟨c, rest ++ suffix.toList, ?_, hstart, fun d hd => ?_⟩
  · rw [String.toList_append, htext, List.cons_append]
  · exact (List.mem_append.mp hd).elim (hrest d) (List.all_eq_true.mp hsuffix d)

theorem IsMetricName.ne_empty (h : IsMetricName text) : text ≠ "" := by
  rintro rfl
  obtain ⟨c, rest, htext, -⟩ := h
  cases htext

theorem IsMetricName.isNameChar_of_mem (h : IsMetricName text) :
    ∀ c ∈ text.toList, isNameChar c = true := by
  obtain ⟨c, rest, htext, hstart, hrest⟩ := h
  rw [htext, List.forall_mem_cons, isNameChar, hstart]
  exact ⟨rfl, hrest⟩

/-! ## Names that begin with a digit -/

/-- Whether a text begins with a digit. -/
def beginsWithDigit (text : String) : Bool :=
  text.toList.head?.any Char.isDigit

theorem not_isMetricName (h : beginsWithDigit text = true) : ¬IsMetricName text := by
  rintro ⟨c, rest, htext, hstart, -⟩
  rw [beginsWithDigit, htext, List.head?_cons, Option.any_some] at h
  rw [isNameStart_of_isDigit h] at hstart
  cases hstart

/-- A text of such characters is a name of metrics unless a digit comes first. -/
theorem isMetricName_of_chars (hne : text ≠ "") (hchars : ∀ c ∈ text.toList, isNameChar c = true)
    (h : beginsWithDigit text = false) : IsMetricName text := by
  obtain ⟨c, rest, htext⟩ := exists_toList_eq hne
  rw [htext, List.forall_mem_cons] at hchars
  rw [beginsWithDigit, htext, List.head?_cons, Option.any_some] at h
  have hstart := hchars.1
  rw [isNameChar, h, Bool.or_false] at hstart
  exact ⟨c, rest, htext, hstart, hchars.2⟩

theorem beginsWithDigit_append (h : text ≠ "") (rest : String) :
    beginsWithDigit (text ++ rest) = beginsWithDigit text := by
  obtain ⟨c, chars, htext⟩ := exists_toList_eq h
  rw [beginsWithDigit, String.toList_append, htext, beginsWithDigit, htext]
  rfl

/-- A text that begins with what begins with a digit does so too. -/
theorem beginsWithDigit_of_isPrefix {line : String} (h : beginsWithDigit text = true)
    (hstart : text.toList <+: line.toList) : beginsWithDigit line = true := by
  obtain ⟨rest, hrest⟩ := hstart
  have hne : text ≠ "" := by
    rintro rfl
    cases h
  have hline : line = text ++ String.ofList rest := by
    rw [← String.toList_inj, String.toList_append, String.toList_ofList, hrest]
  rw [hline, beginsWithDigit_append hne, h]

end Gatehouse.Exposition
