import Gatehouse.Proofs.Text.Blank
import Gatehouse.Route.Pattern

/-!
# The grammar of patterns

A text that is trimmed is that of a pattern if it is a path without white space, or a verb and a
path with white space between them (`RoutePattern.Spells`), and no other text is read as one
(`RoutePattern.ofString_eq_ok_iff`). What is written of a pattern that has been read is read as the
same pattern (`RoutePattern.ofString_text`). So patterns that have been read are told apart by
their texts (`RoutePattern.text_inj`).
-/

namespace Gatehouse

open Text Text.Blank

theorem Verb.isBlank_of_mem_name (v : Verb) : ∀ c ∈ v.name.toList, isBlank c = false := by
  have hall : v.name.toList.all (fun c => !isBlank c) = true := by
    cases v <;> decide
  simpa using hall

theorem Verb.toList_name_ne_nil (v : Verb) : v.name.toList ≠ [] := by
  cases v <;> decide

theorem Verb.ofName?_eq_some_iff {token : String} {v : Verb} :
    Verb.ofName? token = some v ↔ token = v.name := by
  constructor
  · intro h
    have hname : v.name = token := by simpa using List.find?_some h
    exact hname.symm
  · rintro rfl
    exact v.ofName?_name

namespace RoutePattern

/-- What a text without white space around it spells. -/
inductive Spells : List Char → RoutePattern → Prop
  /-- A path without white space stands for every method. -/
  | path {path : List Char} (rooted : path.head? = some '/')
      (solid : ∀ c ∈ path, isBlank c = false) :
      Spells path ⟨none, String.ofList path⟩
  /-- A verb is set apart from a path by white space. -/
  | verb (v : Verb) {gap path : List Char} (apart : gap ≠ [])
      (blank : ∀ c ∈ gap, isBlank c = true) (rooted : path.head? = some '/') :
      Spells (v.name.toList ++ gap ++ path) ⟨some v, String.ofList path⟩

variable {text text' : String} {p q : RoutePattern}

theorem rooted_eq_ok_iff {whole : String} {verb : Option Verb} {path : List Char} :
    rooted whole verb path = .ok p ↔ path.head? = some '/' ∧ p = ⟨verb, String.ofList path⟩ := by
  rw [rooted]
  split_ifs with h
  · simp [h, eq_comm]
  · simp [h]

theorem ne_nil_of_head? {path : List Char} (h : path.head? = some '/') : path ≠ [] := by
  rintro rfl
  cases h

theorem name_append_ne_nil (v : Verb) (gap : List Char) : v.name.toList ++ gap ≠ [] := fun h =>
  v.toList_name_ne_nil (List.append_eq_nil_iff.mp h).1

/-- A verb with a path behind it begins with no white space, and ends as the path does. -/
theorem isTight_verb_iff {v : Verb} {gap path : List Char} (rooted : path.head? = some '/') :
    IsTight (v.name.toList ++ gap ++ path) ↔ IsTight path := by
  rw [isTight_append_iff (name_append_ne_nil v gap) (ne_nil_of_head? rooted)]
  constructor
  · refine fun h => ⟨fun c hc => ?_, h.2⟩
    obtain rfl := Option.some.inj (rooted.symm.trans hc)
    decide
  · refine fun h => ⟨fun c hc => v.isBlank_of_mem_name c ?_, h.last⟩
    rw [List.head?_append, List.head?_eq_some_head v.toList_name_ne_nil, Option.some_or] at hc
    exact Option.some.inj hc ▸ List.head_mem _

/-- A trimmed text is read as what it spells. -/
theorem ofString_of_spells {whole : List Char} (htrim : Blank.trim text.toList = whole)
    (h : Spells whole p) : ofString text = .ok p := by
  have htight : IsTight whole := htrim ▸ isTight_trim text.toList
  simp only [ofString, Text.trim, String.toList_ofList, htrim]
  cases h with
  | path rooted solid =>
    rw [divide_eq_none_iff.mpr solid]
    exact rooted_eq_ok_iff.mpr ⟨rooted, rfl⟩
  | @verb v gap path apart blank rooted =>
    obtain ⟨c, gap, rfl⟩ := List.exists_cons_of_ne_nil apart
    obtain ⟨hc, hgap⟩ := List.forall_mem_cons.mp blank
    have hdivide : divide (v.name.toList ++ c :: gap ++ path) =
        some (v.name.toList, gap ++ path) := by
      rw [List.append_assoc, List.cons_append]
      exact divide_append v.isBlank_of_mem_name hc
    have hpath : Blank.trim (gap ++ path) = path :=
      trim_blanks_append ((isTight_verb_iff rooted).mp htight) hgap
    simp only [hdivide, String.ofList_toList, v.ofName?_name, hpath]
    exact rooted_eq_ok_iff.mpr ⟨rooted, rfl⟩

/-- What is read from a text is spelled by it. -/
theorem spells_of_ofString (h : ofString text = .ok p) : Spells (Blank.trim text.toList) p := by
  have htight := isTight_trim text.toList
  simp only [ofString, Text.trim, String.toList_ofList] at h
  split at h
  · rename_i hdivide
    obtain ⟨rooted, rfl⟩ := rooted_eq_ok_iff.mp h
    exact .path rooted (divide_eq_none_iff.mp hdivide)
  · rename_i method rest hdivide
    split at h
    · cases h
    · rename_i v hv
      obtain ⟨rooted, rfl⟩ := rooted_eq_ok_iff.mp h
      obtain ⟨c, heq, hc, -⟩ := divide_eq_some_iff.mp hdivide
      have hmethod : method = v.name.toList := by
        rw [← Verb.ofName?_eq_some_iff.mp hv, String.toList_ofList]
      -- The white space behind the verb goes on up to the path.
      have hlast : ∀ c ∈ rest.getLast?, isBlank c = false := by
        intro d hd
        refine htight.last d ?_
        rw [heq, List.getLast?_append, List.getLast?_cons, hd]
        rfl
      obtain ⟨gap, hrest, hgap⟩ := exists_append_trim hlast
      have hwhole : Blank.trim text.toList = v.name.toList ++ c :: gap ++ Blank.trim rest := by
        rw [heq, hmethod, List.append_assoc, List.cons_append, ← hrest]
      rw [hwhole]
      exact .verb v (List.cons_ne_nil c gap) (List.forall_mem_cons.mpr ⟨hc, hgap⟩) rooted

/-- A text is read as a pattern exactly if it spells it, but for white space around it. -/
theorem ofString_eq_ok_iff : ofString text = .ok p ↔ Spells (Blank.trim text.toList) p :=
  ⟨spells_of_ofString, ofString_of_spells rfl⟩

/-! ## Texts of patterns -/

/-- What spells a pattern and is trimmed is, up to the white space inside, its text. -/
theorem Spells.spells_text {whole : List Char} (h : Spells whole p) (htight : IsTight whole) :
    Spells p.text.toList p ∧ IsTight p.text.toList := by
  cases h with
  | path rooted solid =>
    simp only [RoutePattern.text, String.toList_ofList]
    exact ⟨.path rooted solid, htight⟩
  | @verb v gap path apart blank rooted =>
    have htext : RoutePattern.text ⟨some v, String.ofList path⟩ =
        String.ofList (v.name.toList ++ [' '] ++ path) := by
      simp [RoutePattern.text, String.ofList_append, String.append_assoc]
    rw [htext, String.toList_ofList]
    refine ⟨.verb v (List.cons_ne_nil _ _) (List.forall_mem_singleton.mpr (by decide)) rooted, ?_⟩
    exact (isTight_verb_iff rooted).mpr ((isTight_verb_iff rooted).mp htight)

/-- The text of a pattern that has been read is read as the same pattern. -/
theorem ofString_text (h : ofString text = .ok p) : ofString p.text = .ok p := by
  obtain ⟨hspells, htight⟩ := (spells_of_ofString h).spells_text (isTight_trim text.toList)
  exact ofString_of_spells (trim_of_isTight htight) hspells

/-- Different patterns are printed differently. -/
theorem text_inj (hp : ofString text = .ok p) (hq : ofString text' = .ok q) :
    p.text = q.text ↔ p = q := by
  refine ⟨fun h => ?_, fun h => h ▸ rfl⟩
  have hread := ofString_text hp
  rw [h, ofString_text hq] at hread
  exact (Except.ok.inj hread).symm

end RoutePattern

end Gatehouse
