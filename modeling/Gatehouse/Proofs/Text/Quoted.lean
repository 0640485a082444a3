import Gatehouse.Proofs.Text.Letter
import Gatehouse.Text.Quoted
import Mathlib.Data.List.Basic

/-!
# Reading diagnostic text

A character stands between quotes as itself, as a mark behind a backslash or as its number in
hexadecimal digits (`Text.escaped_cases`), and in each case it is read back, whatever comes behind
(`Text.readEscaped_append`). None of these forms begins with a quote; so a text is read up to the
quote that ends it (`Text.unquoted?_quoted`), and is known by its diagnostic text
(`Text.quoted_inj`).
-/

namespace Gatehouse

namespace Hex

/-- The number that digits stand for. -/
def toNat (digits : List Char) : Nat :=
  digits.foldl (fun n c => 16 * n + (value? c).getD 0) 0

theorem value?_digitChar : ∀ n < 16, value? n.digitChar = some n := by
  decide

theorem toNat_ofNat (n : Nat) : toNat (ofNat n) = n := by
  induction n using Nat.strongRecOn with
  | ind n ih =>
    by_cases h : n < 16
    · simp [toNat, ofNat, Nat.toDigits_of_lt_base h, value?_digitChar n h]
    · have hhigh := ih (n / 16) (by omega)
      unfold toNat ofNat at hhigh ⊢
      rw [Nat.toDigits_of_base_le (by decide) (by omega), List.foldl_append, hhigh]
      simp only [List.foldl_cons, List.foldl_nil, value?_digitChar (n % 16) (by omega),
        Option.getD_some]
      omega

theorem isSome_value?_of_mem_ofNat {c : Char} (n : Nat) : c ∈ ofNat n → (value? c).isSome := by
  induction n using Nat.strongRecOn with
  | ind n ih =>
    unfold ofNat at ih ⊢
    by_cases h : n < 16
    · rw [Nat.toDigits_of_lt_base h, List.mem_singleton]
      rintro rfl
      rw [value?_digitChar n h, Option.isSome_some]
    · rw [Nat.toDigits_of_base_le (by decide) (by omega), List.mem_append, List.mem_singleton]
      rintro (hc | rfl)
      · exact ih (n / 16) (by omega) hc
      · rw [value?_digitChar (n % 16) (by omega), Option.isSome_some]

end Hex

namespace Text

/-- The characters that are written as a mark behind a backslash. -/
def marks : List (Char × Char) :=
  [('\x00', '0'), ('\t', 't'), ('\r', 'r'), ('\n', 'n'), ('\\', '\\'), ('"', '"')]

/-- A character by its number. -/
def numbered (c : Char) : List Char :=
  ['\\', 'u', '\x7b'] ++ Hex.ofNat c.toNat ++ ['\x7d']

/-- What stands for a character between quotes. -/
theorem escaped_cases (c : Char) :
    (∃ mark, (c, mark) ∈ marks ∧ escaped c = ['\\', mark]) ∨
      escaped c = numbered c ∨ (c ≠ '\\' ∧ c ≠ '"') ∧ escaped c = [c] := by
  by_cases h : c ∈ marks.map Prod.fst
  · obtain ⟨⟨c, mark⟩, hmark, rfl⟩ := List.mem_map.mp h
    refine Or.inl ⟨mark, hmark, ?_⟩
    have hescaped : ∀ m ∈ marks, escaped m.1 = ['\\', m.2] := by decide
    exact hescaped _ hmark
  · simp only [marks, List.map_cons, List.map_nil, List.mem_cons, List.not_mem_nil, or_false,
      not_or] at h
    simp only [escaped, h, if_false]
    split_ifs
    · exact Or.inr (Or.inl rfl)
    · exact Or.inr (Or.inr ⟨h.2.2.2.2, rfl⟩)

/-- Whether a character is a printable one of ASCII, but for the quote and the backslash. -/
def isBare (c : Char) : Bool :=
  0x20 ≤ c.toNat && c.toNat ≤ 0x7E && c != '"' && c != '\\'

/-- Such a character stands for itself. -/
theorem escaped_of_isBare {c : Char} (h : isBare c = true) : escaped c = [c] := by
  simp only [isBare, Bool.and_eq_true, decide_eq_true_eq, bne_iff_ne] at h
  obtain ⟨⟨⟨hlow, hhigh⟩, hquote⟩, hslash⟩ := h
  have hcontrol {d : Char} (hd : d.toNat < 0x20) : c ≠ d := by
    rintro rfl
    exact absurd hd (Nat.not_lt.mpr hlow)
  have hextending : isExtending c = false := by
    refine not_inRanges_of_apart (t := [(0x20, 0x7E)]) (by decide +kernel) ?_
    simp [inRanges, hlow, hhigh]
  have hprintable : isPrintable c = true := by
    rw [isPrintable, Bool.or_eq_true, Bool.not_eq_true']
    by_cases hspace : c = ' '
    · exact Or.inl (beq_iff_eq.mpr hspace)
    · have hne : c.toNat ≠ 0x20 := fun heq => hspace (Char.toNat_inj.mp heq)
      refine Or.inr (not_inRanges_of_apart (t := [(0x21, 0x7E)]) (by decide +kernel) ?_)
      simp only [inRanges, List.any_cons, List.any_nil, Bool.or_false, Bool.and_eq_true,
        decide_eq_true_eq]
      omega
  rw [escaped, if_neg (hcontrol (by decide)), if_neg (hcontrol (by decide)),
    if_neg (hcontrol (by decide)), if_neg (hcontrol (by decide)), if_neg hslash, if_neg hquote,
    hextending, hprintable]
  rfl

/-- A text of these is shown as it is, between quotes. -/
theorem quoted_of_isBare {s : String} (h : s.toList.all isBare = true) :
    quoted s = "\"" ++ s ++ "\"" := by
  have hescaped : ∀ c ∈ s.toList, escaped c = [c] := fun c hc =>
    escaped_of_isBare (List.all_eq_true.mp h c hc)
  rw [quoted, List.flatMap_congr hescaped, List.flatMap_singleton', ← String.toList_inj]
  simp

/-- The first character of a text between quotes, and the text behind it. -/
def readEscaped : List Char → Option (Char × List Char)
  | '\\' :: 'u' :: '\x7b' :: text =>
    some (Char.ofNat (Hex.toNat (text.takeWhile (· != '\x7d'))),
      (text.dropWhile (· != '\x7d')).tail)
  | '\\' :: mark :: text => (marks.find? fun m => m.2 == mark).map fun m => (m.1, text)
  | c :: text => some (c, text)
  | [] => none

/-- Every character is read back, whatever comes behind it. -/
theorem readEscaped_append (c : Char) (text : List Char) :
    readEscaped (escaped c ++ text) = some (c, text) := by
  rcases escaped_cases c with ⟨mark, hmark, heq⟩ | heq | ⟨⟨hslash, -⟩, heq⟩
  · have hread : ∀ m ∈ marks, readEscaped (['\\', m.2] ++ text) = some (m.1, text) := by
      simp [marks, readEscaped]
    rw [heq, hread _ hmark]
  · have hdigits : ∀ d ∈ Hex.ofNat c.toNat, (d != '\x7d') = true := by
      intro d hd
      rw [bne_iff_ne]
      rintro rfl
      exact absurd (Hex.isSome_value?_of_mem_ofNat _ hd) (by decide)
    have hform : numbered c ++ text =
        '\\' :: 'u' :: '\x7b' :: (Hex.ofNat c.toNat ++ '\x7d' :: text) := by
      simp [numbered]
    rw [heq, hform, readEscaped, List.takeWhile_append_of_pos hdigits,
      List.dropWhile_append_of_pos hdigits]
    simp [Hex.toNat_ofNat, Char.ofNat_toNat]
  · rw [heq, List.singleton_append]
    unfold readEscaped
    split <;> simp_all

/-- A text up to the quote that ends it, and what comes behind. At most as many characters are read
as the number says. -/
def readText : Nat → List Char → Option (List Char × List Char)
  | _, '"' :: rest => some ([], rest)
  | 0, _ => none
  | n + 1, text =>
    (readEscaped text).bind fun first =>
      (readText n first.2).map fun others => (first.1 :: others.1, others.2)

/-- The form of a character is not taken for the end of a text. -/
theorem exists_escaped_eq_cons (c : Char) : ∃ d rest, d ≠ '"' ∧ escaped c = d :: rest := by
  rcases escaped_cases c with ⟨mark, -, heq⟩ | heq | ⟨⟨-, hquote⟩, heq⟩
  · exact ⟨'\\', [mark], by decide, heq⟩
  · exact ⟨'\\', _, by decide, heq⟩
  · exact ⟨c, [], hquote, heq⟩

/-- A text is read back, whatever comes behind the quote that ends it. -/
theorem readText_append : ∀ {n : Nat} {text : List Char}, text.length ≤ n → ∀ rest,
    readText n (text.flatMap escaped ++ '"' :: rest) = some (text, rest)
  | n, [], _, rest => by
    rw [List.flatMap_nil, List.nil_append, readText.eq_def]
    cases n <;> rfl
  | n + 1, c :: text, h, rest => by
    have hread := readEscaped_append c (text.flatMap escaped ++ '"' :: rest)
    obtain ⟨d, others, hd, heq⟩ := exists_escaped_eq_cons c
    rw [List.flatMap_cons, List.append_assoc]
    rw [heq, List.cons_append] at hread ⊢
    rw [readText, hread, Option.bind_some, readText_append (Nat.le_of_succ_le_succ h) rest]
    · rfl
    · exact fun _ hquote => hd (List.cons.inj hquote).1

/-- No text is longer than what is written for it. -/
theorem length_le_length_escaped : ∀ text : List Char, text.length ≤ (text.flatMap escaped).length
  | [] => Nat.le_refl 0
  | c :: text => by
    obtain ⟨d, others, -, heq⟩ := exists_escaped_eq_cons c
    have htext := length_le_length_escaped text
    rw [List.flatMap_cons, heq, List.length_append, List.length_cons, List.length_cons]
    omega

/-- The string that a text between quotes shows. -/
def unquoted? (shown : String) : Option String :=
  match shown.toList with
  | '"' :: text =>
    match readText text.length text with
    | some (s, []) => some (String.ofList s)
    | _ => none
  | _ => none

/-- A string is read back from its diagnostic text. -/
theorem unquoted?_quoted (s : String) : unquoted? (quoted s) = some s := by
  have hlength : s.toList.length ≤ (s.toList.flatMap escaped ++ ['"']).length := by
    have htext := length_le_length_escaped s.toList
    rw [List.length_append]
    omega
  rw [unquoted?, quoted, String.toList_ofList, List.cons_append]
  simp only [readText_append hlength, String.ofList_toList]

/-- A string is known by its diagnostic text. -/
theorem quoted_inj {s t : String} : quoted s = quoted t ↔ s = t := by
  refine ⟨fun h => ?_, fun h => h ▸ rfl⟩
  have hread := unquoted?_quoted s
  rw [h, unquoted?_quoted] at hread
  exact (Option.some.inj hread).symm

end Text

end Gatehouse
