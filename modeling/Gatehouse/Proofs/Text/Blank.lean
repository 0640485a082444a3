import Gatehouse.Text.Blank
import Mathlib.Data.List.TakeWhile

/-!
# Trimming and dividing

`Blank.trim` leaves of a text what stands between the white space at its ends. That neither begins
nor ends with white space (`isTight_trim`), and whatever white space is put around such a text, it
is what is left (`trim_append`). `Blank.divide` divides a text at the first white space, if there is
any (`divide_eq_none_iff`, `divide_eq_some_iff`).
-/

namespace Gatehouse.Text.Blank

variable {text before after : List Char}

/-- A text neither begins nor ends with white space. -/
structure IsTight (text : List Char) : Prop where
  head : ∀ c ∈ text.head?, isBlank c = false
  last : ∀ c ∈ text.getLast?, isBlank c = false

theorem IsTight.reverse (h : IsTight text) : IsTight text.reverse :=
  ⟨by simpa using h.last, by simpa using h.head⟩

theorem dropWhile_of_head (h : ∀ c ∈ text.head?, isBlank c = false) :
    text.dropWhile isBlank = text := by
  cases text with
  | nil => rfl
  | cons c text => rw [List.dropWhile_cons_of_neg (by simp [h c rfl])]

theorem head_dropWhile (text : List Char) :
    ∀ c ∈ (text.dropWhile isBlank).head?, isBlank c = false := by
  intro c hc
  obtain ⟨rest, hrest⟩ := List.head?_eq_some_iff.mp hc
  have hne := List.head_dropWhile_not isBlank (l := text) (by simp [hrest])
  simpa [hrest] using hne

/-- Only blanks leave nothing. -/
theorem trim_eq_nil_iff : trim text = [] ↔ ∀ c ∈ text, isBlank c = true := by
  rw [trim, trimEnd, trimStart, List.reverse_eq_nil_iff, List.dropWhile_eq_nil_iff]
  constructor
  · intro h
    -- What is left of the text begins with no blank, unless nothing is left.
    cases hrest : text.dropWhile isBlank with
    | nil => exact List.dropWhile_eq_nil_iff.mp hrest
    | cons c rest =>
      have hblank := h c (by simp [hrest])
      rw [head_dropWhile text c (by simp [hrest])] at hblank
      cases hblank
  · intro h c hc
    exact h c ((List.dropWhile_sublist _).subset (List.mem_reverse.mp hc))

/-- A trimmed text is tight. -/
theorem isTight_trim (text : List Char) : IsTight (trim text) := by
  refine ⟨fun c hc => ?_, fun c hc => ?_⟩
  · -- What is cut off behind leaves the first character, unless it leaves nothing.
    obtain ⟨rest, hrest⟩ := List.head?_eq_some_iff.mp hc
    obtain ⟨tail, htail⟩ := List.reverse_prefix.mpr
      (List.dropWhile_suffix isBlank (l := (trimStart text).reverse))
    rw [List.reverse_reverse, ← trimEnd, ← trim, hrest] at htail
    exact head_dropWhile text c (by rw [← trimStart, ← htail]; rfl)
  · rw [trim, trimEnd, List.getLast?_reverse] at hc
    exact head_dropWhile _ c hc

/-- Of a text in the middle of white space the text is left. -/
theorem trim_append (h : IsTight text) (hbefore : ∀ c ∈ before, isBlank c = true)
    (hafter : ∀ c ∈ after, isBlank c = true) : trim (before ++ text ++ after) = text := by
  have hblank : ∀ c ∈ after.reverse, isBlank c = true := fun c hc =>
    hafter c (List.mem_reverse.mp hc)
  have hend : trimEnd (text ++ after) = text := by
    rw [trimEnd, List.reverse_append, List.dropWhile_append_of_pos hblank,
      dropWhile_of_head h.reverse.head, List.reverse_reverse]
  rw [trim, trimStart, List.append_assoc, List.dropWhile_append_of_pos hbefore]
  cases text with
  | nil =>
    rw [List.nil_append, List.dropWhile_eq_nil_iff.mpr hafter]
    rfl
  | cons c text =>
    rw [List.cons_append, List.dropWhile_cons_of_neg (by simp [h.head c rfl])]
    exact hend

theorem trim_blanks_append (h : IsTight text) (hbefore : ∀ c ∈ before, isBlank c = true) :
    trim (before ++ text) = text := by
  have htrim : trim (before ++ text ++ []) = text := trim_append h hbefore (by simp)
  rwa [List.append_nil] at htrim

theorem trim_of_isTight (h : IsTight text) : trim text = text := by
  have htrim : trim ([] ++ text) = text := trim_blanks_append h (by simp)
  rwa [List.nil_append] at htrim

/-- Of a text that does not end with white space nothing is cut off behind. -/
theorem exists_append_trim (h : ∀ c ∈ text.getLast?, isBlank c = false) :
    ∃ before, text = before ++ trim text ∧ ∀ c ∈ before, isBlank c = true := by
  have hsplit : text.takeWhile isBlank ++ text.dropWhile isBlank = text :=
    List.takeWhile_append_dropWhile
  have hbefore : ∀ c ∈ text.takeWhile isBlank, isBlank c = true := fun c hc =>
    List.mem_takeWhile_imp hc
  have htight : IsTight (text.dropWhile isBlank) := by
    refine ⟨head_dropWhile text, fun c hc => h c ?_⟩
    rw [← hsplit, List.getLast?_append, hc]
    rfl
  have htrim := trim_blanks_append htight hbefore
  rw [hsplit] at htrim
  exact ⟨text.takeWhile isBlank, by rw [htrim, hsplit], hbefore⟩

/-- A text of two parts begins as the first and ends as the second. -/
theorem isTight_append_iff (hbefore : before ≠ []) (hafter : after ≠ []) :
    IsTight (before ++ after) ↔
      (∀ c ∈ before.head?, isBlank c = false) ∧ ∀ c ∈ after.getLast?, isBlank c = false := by
  have hhead : (before ++ after).head? = before.head? := by
    rw [List.head?_append, List.head?_eq_some_head hbefore, Option.some_or]
  have hlast : (before ++ after).getLast? = after.getLast? := by
    rw [List.getLast?_append, List.getLast?_eq_some_getLast hafter, Option.some_or]
  exact ⟨fun h => ⟨hhead ▸ h.head, hlast ▸ h.last⟩, fun h => ⟨hhead.symm ▸ h.1, hlast.symm ▸ h.2⟩⟩

/-! ## Dividing -/

/-- A text is divided at its first blank. -/
theorem divide_append {word rest : List Char} {c : Char}
    (hword : ∀ c ∈ word, isBlank c = false) (hc : isBlank c = true) :
    divide (word ++ c :: rest) = some (word, rest) := by
  have hall : ∀ c ∈ word, (!isBlank c) = true := fun c h => by simp [hword c h]
  rw [divide, List.dropWhile_append_of_pos hall, List.takeWhile_append_of_pos hall]
  simp [hc]

theorem divide_eq_none_iff : divide text = none ↔ ∀ c ∈ text, isBlank c = false := by
  rw [divide]
  split
  · rename_i hdrop
    rw [List.dropWhile_eq_nil_iff] at hdrop
    simpa using hdrop
  · rename_i c rest hdrop
    refine iff_of_false (by simp) fun hall => ?_
    have hnil : text.dropWhile (fun c => !isBlank c) = [] :=
      List.dropWhile_eq_nil_iff.mpr fun c h => by simp [hall c h]
    rw [hnil] at hdrop
    cases hdrop

/-- A text that is divided is a word, a blank, and a rest. -/
theorem divide_eq_some_iff {word rest : List Char} :
    divide text = some (word, rest) ↔
      ∃ c, text = word ++ c :: rest ∧ isBlank c = true ∧ ∀ c ∈ word, isBlank c = false := by
  constructor
  · intro h
    rw [divide] at h
    split at h
    · cases h
    · rename_i c rest' hdrop
      obtain ⟨rfl, rfl⟩ := Prod.mk.inj (Option.some.inj h)
      refine ⟨c, ?_, ?_, fun d hd => by simpa using List.mem_takeWhile_imp hd⟩
      · rw [← hdrop, List.takeWhile_append_dropWhile]
      · have hhead := List.head_dropWhile_not (fun c => !isBlank c) (l := text) (by simp [hdrop])
        simpa [hdrop] using hhead
  · rintro ⟨c, rfl, hc, hword⟩
    exact divide_append hword hc

end Gatehouse.Text.Blank
