import Gatehouse.Json.Printer
import Gatehouse.Proofs.Bytes.Utf8
import Mathlib.Data.List.Basic
import Mathlib.Tactic.SplitIfs

/-!
# Strings and numbers read back

The two lexemes of JSON that carry data. A string is written character by character, and
`Reader.string` finds the pieces `Piece.ofText` of the text again, whatever stands behind the
closing quote (`string_written`); `text?` makes the text of them (`text?_ofText`). A whole
number is written by its digits, and `Reader.numeral` takes all of them and no more if what
follows is delimited (`numeral_written`).
-/

namespace Gatehouse.Json

/-! ## Strings -/

/-- The characters that are written by a letter behind a backslash. -/
def Printer.isLettered (c : Char) : Prop :=
  c = '"' ∨ c = '\\' ∨ c = '\x08' ∨ c = '\x0c' ∨ c = '\n' ∨ c = '\r' ∨ c = '\t'

instance (c : Char) : Decidable (Printer.isLettered c) :=
  inferInstanceAs (Decidable (_ ∨ _))

/-- The pieces by which a character is written. -/
def Piece.ofChar (c : Char) : List Piece :=
  if Printer.isLettered c then [.escape c]
  else if c.toNat < 0x20 then [.unit c.toNat]
  else (String.utf8EncodeChar c).map .byte

/-- The pieces by which a text is written. -/
def Piece.ofText (text : List Char) : List Piece :=
  text.flatMap ofChar

/-- A text without quotes, backslashes and control characters is written as it is. -/
theorem Printer.string_of_plain {text : List Char}
    (h : ∀ c ∈ text, 0x20 ≤ c.toNat ∧ c ≠ '"' ∧ c ≠ '\\') :
    string (String.ofList text) = '"' :: text ++ ['"'] := by
  have hescape : ∀ c ∈ text, escape c = [c] := by
    intro c hc
    obtain ⟨hlow, hquote, hslash⟩ := h c hc
    have hcontrol {d : Char} (hd : d.toNat < 0x20) : c ≠ d := by
      rintro rfl
      exact absurd hd (Nat.not_lt.mpr hlow)
    rw [escape, if_neg hquote, if_neg hslash, if_neg (hcontrol (by decide)),
      if_neg (hcontrol (by decide)), if_neg (hcontrol (by decide)), if_neg (hcontrol (by decide)),
      if_neg (hcontrol (by decide)), if_neg (Nat.not_lt.mpr hlow)]
  have hflat : text.flatMap escape = text := by
    rw [List.flatMap_congr hescape, List.flatMap_singleton']
  rw [string, String.toList_ofList, hflat]

namespace Reader

theorem string_quote (bytes : Bytes) (done : List Piece) :
    string (0x22 :: bytes) done = some (done.reverse, bytes) := by
  rw [string.eq_def]
  rfl

/-- A byte that need not be escaped is one piece of a string. -/
theorem string_byte {b : UInt8} (h : b ≠ 0x22 ∧ b ≠ 0x5C ∧ ¬b < 0x20) (bytes : Bytes)
    (done : List Piece) : string (b :: bytes) done = string bytes (.byte b :: done) := by
  obtain ⟨hquote, hslash, hcontrol⟩ := h
  rw [string.eq_def]
  simp only [beq_iff_eq, if_neg hquote, if_neg hslash, if_neg hcontrol]

theorem string_letter {e : UInt8} {c : Char} (he : e ≠ 0x75) (h : escapeOf e = some c)
    (bytes : Bytes) (done : List Piece) :
    string (0x5C :: e :: bytes) done = string bytes (.escape c :: done) := by
  rw [string.eq_def]
  simp [he, h]

theorem string_unit {a b c d : UInt8} {u : Nat} (h : unitOf a b c d = some u) (bytes : Bytes)
    (done : List Piece) :
    string (0x5C :: 0x75 :: a :: b :: c :: d :: bytes) done =
      string bytes (.unit u :: done) := by
  rw [string.eq_def]
  simp [h]

/-- Bytes that are no quote, no backslash and no control character stand for themselves. -/
theorem string_bytes (plain bytes : Bytes) (done : List Piece)
    (h : ∀ b ∈ plain, b ≠ 0x22 ∧ b ≠ 0x5C ∧ ¬b < 0x20) :
    string (plain ++ bytes) done = string bytes ((plain.map .byte).reverse ++ done) := by
  induction plain generalizing done with
  | nil => rfl
  | cons b plain ih =>
    rw [List.cons_append, string_byte (h b List.mem_cons_self),
      ih _ fun b hb => h b (List.mem_cons_of_mem _ hb)]
    simp

/-- No byte of a character that is written as it is ends a string or escapes from it. -/
theorem plain_of_mem_utf8EncodeChar {c : Char} (hl : ¬Printer.isLettered c)
    (hc : ¬c.toNat < 0x20) {b : UInt8} (hb : b ∈ String.utf8EncodeChar c) :
    b ≠ 0x22 ∧ b ≠ 0x5C ∧ ¬b < 0x20 := by
  rw [Ne, Ne, ← UInt8.toNat_inj, ← UInt8.toNat_inj, UInt8.lt_iff_toNat_lt]
  by_cases h : c.toNat < 0x80
  · rw [Utf8.utf8EncodeChar_of_ascii h, List.mem_singleton] at hb
    have hn : b.toNat = c.toNat := by
      rw [hb, UInt8.toNat_ofNat']
      omega
    rw [hn]
    refine ⟨fun hq => hl (Or.inl ?_), fun hs => hl (Or.inr (Or.inl ?_)), hc⟩
    · rw [← Char.ofNat_toNat c, hq]
      rfl
    · rw [← Char.ofNat_toNat c, hs]
      rfl
  · have hb' := Utf8.le_toNat_of_mem_utf8EncodeChar h hb
    refine ⟨?_, ?_, ?_⟩ <;> intro hlt <;> simp only [UInt8.reduceToNat] at hlt <;> omega

/-- The code unit of two digits behind two zeros. -/
theorem unitOf_digits {n : Nat} (h : n < 0x20) :
    unitOf 0x30 0x30 (UInt8.ofNat (Hex.digit (n / 16)).toNat)
      (UInt8.ofNat (Hex.digit (n % 16)).toNat) = some n := by
  revert n
  decide

theorem utf8EncodeChar_digit {n : Nat} (h : n < 16) :
    String.utf8EncodeChar (Hex.digit n) = [UInt8.ofNat (Hex.digit n).toNat] := by
  revert n
  decide

/-- The reader takes the written form of a character as its pieces. -/
theorem string_escape (c : Char) (bytes : Bytes) (done : List Piece) :
    string (Utf8.encode (Printer.escape c) ++ bytes) done =
      string bytes ((Piece.ofChar c).reverse ++ done) := by
  by_cases hl : Printer.isLettered c
  · rw [Piece.ofChar, if_pos hl]
    rcases hl with rfl | rfl | rfl | rfl | rfl | rfl | rfl <;>
      exact string_letter (by decide) (by decide) bytes done
  · have hne := hl
    simp only [Printer.isLettered, not_or] at hne
    obtain ⟨h1, h2, h3, h4, h5, h6, h7⟩ := hne
    rw [Piece.ofChar, if_neg hl, Printer.escape, if_neg h1, if_neg h2, if_neg h3, if_neg h4,
      if_neg h5, if_neg h6, if_neg h7]
    split_ifs with hc
    · have hbytes : Utf8.encode ['\\', 'u', '0', '0', Hex.digit (c.toNat / 16),
          Hex.digit (c.toNat % 16)] = [0x5C, 0x75, 0x30, 0x30,
          UInt8.ofNat (Hex.digit (c.toNat / 16)).toNat,
          UInt8.ofNat (Hex.digit (c.toNat % 16)).toNat] := by
        simp only [Utf8.encode_cons, Utf8.encode_nil,
          utf8EncodeChar_digit (show c.toNat / 16 < 16 by omega),
          utf8EncodeChar_digit (show c.toNat % 16 < 16 by omega)]
        rfl
      rw [hbytes]
      exact string_unit (unitOf_digits hc) bytes done
    · rw [Utf8.encode_cons, Utf8.encode_nil, List.append_nil]
      exact string_bytes _ bytes done fun b hb => plain_of_mem_utf8EncodeChar hl hc hb

/-- The reader takes the written form of a text as its pieces, and stops behind the quote. -/
theorem string_written (text : List Char) (bytes : Bytes) (done : List Piece) :
    string (Utf8.encode (text.flatMap Printer.escape) ++ 0x22 :: bytes) done =
      some (done.reverse ++ Piece.ofText text, bytes) := by
  induction text generalizing done with
  | nil =>
    rw [List.flatMap_nil, Utf8.encode_nil, List.nil_append, string_quote, Piece.ofText,
      List.flatMap_nil, List.append_nil]
  | cons c text ih =>
    rw [List.flatMap_cons, Utf8.encode_append, List.append_assoc, string_escape, ih]
    simp [Piece.ofText]

end Reader

/-! ## The text of the pieces -/

theorem bytesOfPieces_bytes (plain : Bytes) (pieces : List Piece) (done : Bytes) :
    bytesOfPieces (plain.map .byte ++ pieces) done =
      bytesOfPieces pieces (plain.reverse ++ done) := by
  induction plain generalizing done with
  | nil => rfl
  | cons b plain ih =>
    rw [List.map_cons, List.cons_append, bytesOfPieces, ih]
    simp

/-- The pieces of a character are joined to its bytes. -/
theorem bytesOfPieces_ofChar (c : Char) (pieces : List Piece) (done : Bytes) :
    bytesOfPieces (Piece.ofChar c ++ pieces) done =
      bytesOfPieces pieces ((String.utf8EncodeChar c).reverse ++ done) := by
  rw [Piece.ofChar]
  split_ifs with hl hc
  · rfl
  · rw [List.singleton_append, bytesOfPieces.eq_def]
    simp only
    rw [if_pos (Or.inl (by omega)), Char.ofNat_toNat]
  · exact bytesOfPieces_bytes _ pieces done

theorem bytesOfPieces_ofText (text : List Char) (done : Bytes) :
    bytesOfPieces (Piece.ofText text) done = some (done.reverse ++ Utf8.encode text) := by
  induction text generalizing done with
  | nil => simp [Piece.ofText, bytesOfPieces]
  | cons c text ih =>
    rw [Piece.ofText, List.flatMap_cons, bytesOfPieces_ofChar, ← Piece.ofText, ih]
    simp

/-- The pieces by which a text is written are those of the text. -/
theorem text?_ofText (s : String) : text? (Piece.ofText s.toList) = some s := by
  rw [text?, bytesOfPieces_ofText]
  exact Utf8.toString?_ofString s

/-! ## Numbers -/

namespace Reader

/-- What may stand behind a value : nothing, or the comma or the bracket behind an element. -/
def Delimited : Bytes → Prop
  | [] => True
  | b :: _ => b = 0x2C ∨ b = 0x5D ∨ b = 0x7D

theorem toNat_bounds_of_isDigit {c : Char} (h : c.isDigit = true) :
    0x30 ≤ c.toNat ∧ c.toNat ≤ 0x39 := by
  simp only [Char.isDigit, Bool.and_eq_true, decide_eq_true_eq] at h
  exact h

theorem isDigit_ofNat_toNat {c : Char} (h : c.isDigit = true) :
    isDigit (UInt8.ofNat c.toNat) = true := by
  obtain ⟨hlow, hhigh⟩ := toNat_bounds_of_isDigit h
  have hn : (UInt8.ofNat c.toNat).toNat = c.toNat := by
    rw [UInt8.toNat_ofNat']
    omega
  simp only [isDigit, Bool.and_eq_true, decide_eq_true_eq, UInt8.le_iff_toNat_le, hn]
  exact ⟨hlow, hhigh⟩

/-- What may stand behind a value is no part of a number. -/
theorem Delimited.head {b : UInt8} {bytes : Bytes} (h : Delimited (b :: bytes)) :
    isDigit b = false ∧ b ≠ 0x2E ∧ b ≠ 0x65 ∧ b ≠ 0x45 := by
  rcases h with rfl | rfl | rfl <;> decide

/-- The reader takes digits up to what may stand behind a value. -/
theorem digits_encode {ds : List Char} (hds : ∀ c ∈ ds, c.isDigit = true) {bytes : Bytes}
    (hb : Delimited bytes) : digits (Utf8.encode ds ++ bytes) = (ds, bytes) := by
  have hascii : ∀ c ∈ ds, c.toNat < 0x80 := fun c hc => by
    have := toNat_bounds_of_isDigit (hds c hc)
    omega
  have hall : ∀ b ∈ Utf8.encode ds, isDigit b = true := by
    rw [Utf8.encode_of_ascii hascii]
    intro b hb
    obtain ⟨c, hc, rfl⟩ := List.mem_map.mp hb
    exact isDigit_ofNat_toNat (hds c hc)
  have htake : bytes.takeWhile isDigit = [] ∧ bytes.dropWhile isDigit = bytes := by
    cases bytes with
    | nil => exact ⟨rfl, rfl⟩
    | cons b bytes => simp [hb.head.1]
  simp only [digits]
  rw [List.takeWhile_append_of_pos hall, List.dropWhile_append_of_pos hall, htake.1,
    htake.2, List.append_nil, Utf8.encode_of_ascii hascii, List.map_map, Function.comp_def]
  have hchar : ∀ c ∈ ds, Char.ofNat (UInt8.ofNat c.toNat).toNat = c := fun c hc => by
    have := hascii c hc
    rw [UInt8.toNat_ofNat', Nat.mod_eq_of_lt (by omega), Char.ofNat_toNat]
  rw [List.map_congr_left (g := id) hchar, List.map_id ds]

theorem fraction_delimited {bytes : Bytes} (h : Delimited bytes) :
    fraction bytes = some (none, bytes) := by
  cases bytes with
  | nil => rfl
  | cons b bytes => simp [fraction, h.head.2.1]

theorem exponent_delimited {bytes : Bytes} (h : Delimited bytes) :
    exponent bytes = some (none, bytes) := by
  cases bytes with
  | nil => rfl
  | cons b bytes => simp [exponent, h.head.2.2.1, h.head.2.2.2]

end Reader

/-- The digits of a number begin with a zero only if the number is zero. -/
theorem toDigits_eq_cons {n : Nat} (h : 0 < n) :
    ∃ d ds, Nat.toDigits 10 n = d :: ds ∧ d ≠ '0' := by
  induction n using Nat.strongRecOn with
  | ind n ih =>
    by_cases hn : n < 10
    · exact ⟨n.digitChar, [], Nat.toDigits_of_lt_base hn, by simp; omega⟩
    · obtain ⟨d, ds, heq, hd⟩ := ih (n / 10) (by omega) (by omega)
      refine ⟨d, ds ++ [(n % 10).digitChar], ?_, hd⟩
      rw [Nat.toDigits_of_base_le (by decide) (by omega), heq, List.cons_append]

/-- A whole number as it is written. -/
def Numeral.ofInt (n : Int) : Numeral :=
  ⟨decide (n < 0), Nat.toDigits 10 n.natAbs, none, none⟩

namespace Reader

/-- What is behind the sign of a written number is read as its digits. -/
theorem digits1_toDigits (n : Nat) {bytes : Bytes} (h : Delimited bytes) :
    digits1 (Utf8.encode (Nat.toDigits 10 n) ++ bytes) = some (Nat.toDigits 10 n, bytes) := by
  have hds : ∀ c ∈ Nat.toDigits 10 n, c.isDigit = true := fun c hc =>
    Nat.isDigit_of_mem_toDigits (by decide) (by decide) hc
  rw [digits1, digits_encode hds h]
  simp

/-- No digits of a number begin with a zero that other digits follow. -/
theorem toDigits_no_leading_zero (n : Nat) :
    ((Nat.toDigits 10 n).head? == some '0' && decide ((Nat.toDigits 10 n).length ≠ 1)) = false := by
  rcases Nat.eq_zero_or_pos n with rfl | hn
  · rfl
  · obtain ⟨d, ds, heq, hd⟩ := toDigits_eq_cons hn
    simp [heq, hd]

/-- The digits of a number begin with no minus sign. -/
theorem encode_toDigits_eq_cons (n : Nat) :
    ∃ b tail, Utf8.encode (Nat.toDigits 10 n) = b :: tail ∧ isDigit b = true := by
  obtain ⟨d, ds, heq⟩ := List.exists_cons_of_ne_nil (Nat.toDigits_ne_nil (n := n) (b := 10))
  have hd : d.isDigit = true := by
    refine Nat.isDigit_of_mem_toDigits (b := 10) (n := n) (by decide) (by decide) ?_
    rw [heq]
    exact List.mem_cons_self
  have hascii := toNat_bounds_of_isDigit hd
  rw [heq, Utf8.encode_cons, Utf8.utf8EncodeChar_of_ascii (by omega)]
  exact ⟨_, _, rfl, isDigit_ofNat_toNat hd⟩

/-- The reader takes the written form of a whole number as that number. -/
theorem numeral_written (n : Int) {bytes : Bytes} (h : Delimited bytes) :
    numeral (Utf8.encode (Notation.int n) ++ bytes) = some (Numeral.ofInt n, bytes) := by
  have hdigits := digits1_toDigits n.natAbs h
  have hzero := toDigits_no_leading_zero n.natAbs
  by_cases hn : n < 0
  · have hsign : Utf8.encode (Notation.int n) ++ bytes =
        0x2D :: (Utf8.encode (Nat.toDigits 10 n.natAbs) ++ bytes) := by
      rw [Notation.int, Notation.sign, decide_eq_true hn, if_pos rfl, Utf8.encode_append,
        List.append_assoc]
      rfl
    rw [hsign, Numeral.ofInt, decide_eq_true hn]
    simp only [numeral, beq_self_eq_true, if_true, hdigits, hzero, fraction_delimited h,
      exponent_delimited h, bind, Option.bind, Bool.false_eq_true, if_false, pure]
  · have hsign : Notation.int n = Nat.toDigits 10 n.natAbs := by
      rw [Notation.int, Notation.sign, decide_eq_false hn]
      rfl
    obtain ⟨b, tail, heq, hb⟩ := encode_toDigits_eq_cons n.natAbs
    have hminus : b ≠ 0x2D := by
      rintro rfl
      exact absurd hb (by decide)
    rw [heq, List.cons_append] at hdigits
    rw [hsign, Numeral.ofInt, decide_eq_false hn, heq, List.cons_append]
    simp only [numeral, beq_iff_eq, hminus, if_false, hdigits, hzero, fraction_delimited h,
      exponent_delimited h, bind, Option.bind, Bool.false_eq_true, pure]

end Reader

/-- A natural number is read back from its digits. -/
theorem ofDigits_toDigits (n : Nat) : Notation.ofDigits (Nat.toDigits 10 n) = n := by
  have h := Nat.ofDigitChars_ten_toDigits (n := n)
  simp only [Nat.ofDigitChars_eq_foldl, Nat.mul_comm 10] at h
  exact h

/-- The value of a written number is the number, as long as it fits into 64 bits. -/
theorem value?_ofInt {n : Int} (low : Width.minSigned ≤ n) (high : n ≤ Width.maxUnsigned) :
    (Numeral.ofInt n).value? = some (.int n) := by
  have hdigits := ofDigits_toDigits n.natAbs
  have hmin : Width.minSigned.natAbs = 9223372036854775808 := rfl
  simp only [Width.minSigned, Width.maxUnsigned] at low high
  rw [Numeral.value?, Numeral.ofInt]
  simp only [hdigits, hmin, Option.isNone_none, maxSignificand, Width.maxUnsigned, true_and,
    decide_eq_true_eq]
  rw [if_pos ⟨by omega, fun hn => by omega⟩, Binary64.signed]
  congr 2
  split_ifs with hn
  · simp only [decide_eq_true_eq] at hn
    omega
  · simp only [decide_eq_true_eq] at hn
    omega

end Gatehouse.Json
