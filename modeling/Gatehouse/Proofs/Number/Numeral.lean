import Gatehouse.Number.Notation
import Gatehouse.Proofs.Json.Lexeme

/-!
# Numerals

The texts that are read as finite numbers. All their characters are digits, signs, a point and the
letter of an exponent (`isNumeral_of_int?`, `isNumeral_of_read?`). What `Notation.int` writes holds
no letter, nor does what `Notation.plain` writes, but for the words for what is no finite number
(`mem_int`, `mem_plain`).
-/

namespace Gatehouse.Notation

variable {text : List Char}

/-- The characters that numerals consist of. -/
def isNumeralChar (c : Char) : Bool :=
  isDigit c || c ∈ ['+', '-', '.', 'e', 'E']

/-- Whether a text consists of them. -/
def IsNumeral (text : List Char) : Prop :=
  ∀ c ∈ text, isNumeralChar c = true

theorem isNumeralChar_of_isDigit {c : Char} (h : isDigit c = true) : isNumeralChar c = true := by
  rw [isNumeralChar, h, Bool.true_or]

theorem isNumeral_append {s t : List Char} (hs : IsNumeral s) (ht : IsNumeral t) :
    IsNumeral (s ++ t) := by
  intro c hc
  rcases List.mem_append.mp hc with hc | hc
  · exact hs c hc
  · exact ht c hc

theorem isNumeral_cons {c : Char} {s : List Char} (hc : isNumeralChar c = true)
    (hs : IsNumeral s) : IsNumeral (c :: s) :=
  List.forall_mem_cons.mpr ⟨hc, hs⟩

theorem isNumeral_digits (text : List Char) : IsNumeral (text.takeWhile isDigit) :=
  fun _ hc => isNumeralChar_of_isDigit (List.all_eq_true.mp List.all_takeWhile _ hc)

/-- A text is a numeral if it is one behind its sign. -/
theorem isNumeral_of_signOf (h : IsNumeral (signOf text).2) : IsNumeral text := by
  rw [signOf.eq_def] at h
  split at h
  · exact isNumeral_cons rfl h
  · exact isNumeral_cons rfl h
  · exact h

theorem toLower_of_isDigit {c : Char} (h : isDigit c = true) : c.toLower = c := by
  simp only [isDigit, Bool.and_eq_true, decide_eq_true_eq] at h
  refine dif_neg ?_
  rintro ⟨hletter, -⟩
  have hupper : 65 ≤ c.toNat := UInt32.le_iff_toNat_le.mp hletter
  omega

/-- The letter of an exponent may be of either case. -/
theorem isNumeralChar_toLower {c : Char} (h : isNumeralChar c = true) :
    isNumeralChar c.toLower = true := by
  rw [isNumeralChar, Bool.or_eq_true] at h
  rcases h with h | h
  · rw [toLower_of_isDigit h]
    exact isNumeralChar_of_isDigit h
  · have hothers : ['+', '-', '.', 'e', 'E'].all (fun c => isNumeralChar c.toLower) = true := by
      decide
    exact List.all_eq_true.mp hothers c (of_decide_eq_true h)

/-- A numeral is still one in lower case. -/
theorem isNumeral_lower (h : IsNumeral text) : IsNumeral (lower text) := by
  intro c hc
  obtain ⟨d, hd, rfl⟩ := List.mem_map.mp hc
  exact isNumeralChar_toLower (h d hd)

/-! ## Reading -/

/-- What is read as a whole number is a numeral. -/
theorem isNumeral_of_int? {n : Int} (h : int? text = some n) : IsNumeral text := by
  apply isNumeral_of_signOf
  simp only [int?] at h
  split_ifs at h with hdigits
  simp only [Bool.or_eq_true, not_or, Bool.not_eq_true', Bool.not_eq_false] at hdigits
  exact fun c hc => isNumeralChar_of_isDigit (List.all_eq_true.mp hdigits.2 c hc)

theorem isNumeral_of_exponent? {n : Int} (h : exponent? text = some n) : IsNumeral text := by
  cases text with
  | nil => exact fun _ hc => absurd hc List.not_mem_nil
  | cons c rest =>
    rw [exponent?] at h
    split_ifs at h with hc
    refine isNumeral_cons ?_ (isNumeral_of_int? h)
    rcases hc with rfl | rfl <;> rfl

theorem isNumeral_of_decimal? {d : Decimal} (h : decimal? text = some d) : IsNumeral text := by
  rw [← List.takeWhile_append_dropWhile (p := isDigit) (l := text)]
  refine isNumeral_append (isNumeral_digits text) ?_
  simp only [decimal?] at h
  split at h
  next rest hrest =>
    rw [hrest]
    split_ifs at h
    obtain ⟨n, hn, -⟩ := Option.bind_eq_some_iff.mp h
    refine isNumeral_cons rfl ?_
    rw [← List.takeWhile_append_dropWhile (p := isDigit) (l := rest)]
    exact isNumeral_append (isNumeral_digits rest) (isNumeral_of_exponent? hn)
  next rest hpoint =>
    split_ifs at h
    obtain ⟨n, hn, -⟩ := Option.bind_eq_some_iff.mp h
    exact isNumeral_of_exponent? hn

/-- A text that is read as a double is a numeral, or a word for what is no finite number. -/
theorem isNumeral_of_read? {x : Binary64} (h : read? text = some x) :
    IsNumeral text ∨ x = .nan ∨ ∃ negative, x = .infinite negative := by
  simp only [read?] at h
  split_ifs at h
  · exact Or.inr (Or.inr ⟨_, (Option.some.inj h).symm⟩)
  · exact Or.inr (Or.inl (Option.some.inj h).symm)
  · obtain ⟨d, hd, -⟩ := Option.map_eq_some_iff.mp h
    exact Or.inl (isNumeral_of_signOf (isNumeral_of_decimal? hd))

/-! ## Writing -/

theorem isDigit_of_mem_toDigits {n : Nat} {c : Char} (h : c ∈ Nat.toDigits 10 n) :
    isDigit c = true := by
  have hc := Json.Reader.toNat_bounds_of_isDigit
    (Nat.isDigit_of_mem_toDigits (by decide) (by decide) h)
  simp only [isDigit, Bool.and_eq_true, decide_eq_true_eq]
  exact hc

/-- The text of a number is its sign and its digits. -/
theorem toList_toString (n : Int) : (toString n).toList = int n := by
  cases n with
  | ofNat n => exact Nat.toList_repr
  | negSucc n =>
    have htext : toString (Int.negSucc n) = "-" ++ Nat.repr (n + 1) := rfl
    rw [htext, String.toList_append, Nat.toList_repr, int,
      decide_eq_true (Int.negSucc_lt_zero n)]
    rfl

/-! ## What is written -/

/-- The characters that finite numbers are written with. -/
def figures : List Char :=
  "0123456789-.".toList

/-- The words for what is no finite number. -/
def words : List String :=
  ["NaN", "inf", "-inf"]

theorem mem_figures_of_isDigit {c : Char} (h : isDigit c = true) : c ∈ figures := by
  simp only [isDigit, Bool.and_eq_true, decide_eq_true_eq] at h
  have hfigures : ∀ n < 10, Char.ofNat (48 + n) ∈ figures := by decide
  have hc := hfigures (c.toNat - 48) (by omega)
  rwa [Nat.add_sub_of_le h.1, Char.ofNat_toNat] at hc

theorem mem_sign {negative : Bool} {c : Char} (h : c ∈ sign negative) : c ∈ figures := by
  rw [sign] at h
  split_ifs at h
  · rw [List.mem_singleton.mp h]
    decide
  · cases h

theorem mem_toDigits {n : Nat} {c : Char} (h : c ∈ Nat.toDigits 10 n) : c ∈ figures :=
  mem_figures_of_isDigit (isDigit_of_mem_toDigits h)

/-- A whole number is written with figures alone. -/
theorem mem_int {n : Int} {c : Char} (h : c ∈ int n) : c ∈ figures :=
  (List.mem_append.mp h).elim mem_sign mem_toDigits

/-- Digits are written with a point and with zeros, as the place of the point demands. -/
theorem mem_positional {digits : List Char} {point : Int} {c : Char}
    (h : c ∈ positional digits point) : c ∈ digits ∨ c = '0' ∨ c = '.' := by
  rw [positional] at h
  split_ifs at h
  · rcases List.mem_append.mp h with h | h
    · rcases List.mem_cons.mp h with rfl | h
      · exact Or.inr (Or.inl rfl)
      rcases List.mem_cons.mp h with rfl | h
      · exact Or.inr (Or.inr rfl)
      · exact Or.inr (Or.inl (List.eq_of_mem_replicate h))
    · exact Or.inl h
  · rcases List.mem_append.mp h with h | h
    · exact Or.inl h
    · exact Or.inr (Or.inl (List.eq_of_mem_replicate h))
  · rcases List.mem_append.mp h with h | h
    · exact Or.inl (List.mem_of_mem_take h)
    rcases List.mem_cons.mp h with rfl | h
    · exact Or.inr (Or.inr rfl)
    · exact Or.inl (List.mem_of_mem_drop h)

theorem mem_plainDecimal {d : Decimal} {c : Char} (h : c ∈ plainDecimal d) : c ∈ figures := by
  rw [plainDecimal] at h
  split_ifs at h
  · rw [List.mem_singleton.mp h]
    decide
  · rcases mem_positional h with h | rfl | rfl
    · exact mem_toDigits h
    · decide
    · decide

/-- A double is written as a word, or with figures. -/
theorem mem_plain (x : Binary64) :
    plain x ∈ words ∨ ∀ c ∈ (plain x).toList, c ∈ figures := by
  cases x with
  | nan => exact Or.inl (by decide)
  | infinite negative => exact Or.inl (by cases negative <;> decide)
  | finite negative mantissa exponent =>
    refine Or.inr fun c hc => ?_
    rw [plain, String.toList_ofList] at hc
    exact (List.mem_append.mp hc).elim mem_sign mem_plainDecimal

end Gatehouse.Notation
