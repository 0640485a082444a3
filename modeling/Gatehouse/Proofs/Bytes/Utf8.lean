import Gatehouse.Bytes.Utf8

/-!
# UTF-8 reads back

`Utf8.decode?` reads what `Utf8.encode` has written (`decode?_encode`), so text put into
bytes is never lost. The machine that reads is followed character by character : a lead byte
opens a character with the bits it holds and a range for the next byte that the next byte of
the same character is in (`lead_two`, `lead_three`, `lead_four`), and every byte behind it
adds six bits (`feed_tail`).

A character below U+0080 is one byte, itself (`utf8EncodeChar_of_ascii`), and no byte of any
other character is below 0x80 (`le_toNat_of_mem_utf8EncodeChar`) : a reader that looks for
ASCII characters can look at bytes.
-/

namespace Gatehouse.Utf8

@[simp] theorem encode_nil : encode [] = [] :=
  rfl

@[simp] theorem encode_cons (c : Char) (text : List Char) :
    encode (c :: text) = String.utf8EncodeChar c ++ encode text :=
  rfl

@[simp] theorem encode_append (s t : List Char) : encode (s ++ t) = encode s ++ encode t :=
  List.flatMap_append

/-! ## Characters as bytes -/

theorem toNat_bounds (c : Char) : c.toNat < 0xD800 ∨ 0xDFFF < c.toNat ∧ c.toNat < 0x110000 :=
  c.valid

theorem utf8EncodeChar_of_ascii {c : Char} (h : c.toNat < 0x80) :
    String.utf8EncodeChar c = [UInt8.ofNat c.toNat] := by
  have hc : c.val.toNat ≤ 0x7F := Nat.le_of_lt_succ h
  rw [String.utf8EncodeChar, if_pos hc]
  rfl

/-- A text of characters below U+0080 is one byte a character. -/
theorem encode_of_ascii : ∀ {text : List Char}, (∀ c ∈ text, c.toNat < 0x80) →
    encode text = text.map fun c => UInt8.ofNat c.toNat
  | [], _ => rfl
  | c :: text, h => by
    have ih := encode_of_ascii fun c hc => h c (List.mem_cons_of_mem _ hc)
    rw [encode_cons, utf8EncodeChar_of_ascii (h c List.mem_cons_self), ih]
    rfl

/-- All bytes of a longer character have their eighth bit. -/
theorem le_toNat_of_mem_utf8EncodeChar {c : Char} (h : ¬c.toNat < 0x80) {b : UInt8}
    (hb : b ∈ String.utf8EncodeChar c) : 0x80 ≤ b.toNat := by
  have hc : ¬c.val.toNat ≤ 0x7F := fun hc => h (Nat.lt_succ_of_le hc)
  rw [String.utf8EncodeChar, if_neg hc] at hb
  split at hb
  · simp only [List.mem_cons, List.not_mem_nil, or_false] at hb
    rcases hb with rfl | rfl <;> rw [UInt8.toNat_ofNat'] <;> omega
  · split at hb
    · simp only [List.mem_cons, List.not_mem_nil, or_false] at hb
      rcases hb with rfl | rfl | rfl <;> rw [UInt8.toNat_ofNat'] <;> omega
    · simp only [List.mem_cons, List.not_mem_nil, or_false] at hb
      rcases hb with rfl | rfl | rfl | rfl <;> rw [UInt8.toNat_ofNat'] <;> omega

/-! ## The machine on one character -/

theorem lead_one {n : Nat} (h : n < 0x80) : lead (UInt8.ofNat n) = .char (Char.ofNat n) := by
  have hn : (UInt8.ofNat n).toNat = n := by
    rw [UInt8.toNat_ofNat']
    omega
  rw [lead, hn, if_pos h]

theorem lead_two {n : Nat} (low : 0x80 ≤ n) (high : n ≤ 0x7FF) :
    lead (UInt8.ofNat (n / 64 % 0x20 + 0xC0)) = .pending ⟨1, 0x80, 0xBF, n / 64⟩ := by
  have hn : (UInt8.ofNat (n / 64 % 0x20 + 0xC0)).toNat = n / 64 + 0xC0 := by
    rw [UInt8.toNat_ofNat']
    omega
  simp only [lead, hn]
  rw [if_neg (by omega), if_neg (by omega), if_pos (by omega),
    show (n / 64 + 0xC0) % 0x20 = n / 64 by omega]

/-- The range behind the lead byte of three bytes keeps out what two bytes can hold and the
surrogates, and nothing else. -/
theorem lead_three {n : Nat} (low : 0x7FF < n) (high : n ≤ 0xFFFF)
    (valid : n < 0xD800 ∨ 0xDFFF < n) :
    ∃ first last, lead (UInt8.ofNat (n / 4096 % 0x10 + 0xE0)) =
        .pending ⟨2, first, last, n / 4096⟩ ∧
      first ≤ n / 64 % 0x40 + 0x80 ∧ n / 64 % 0x40 + 0x80 ≤ last := by
  have hn : (UInt8.ofNat (n / 4096 % 0x10 + 0xE0)).toNat = n / 4096 + 0xE0 := by
    rw [UInt8.toNat_ofNat']
    omega
  simp only [lead, hn]
  rw [if_neg (by omega), if_neg (by omega), if_neg (by omega)]
  split
  · exact ⟨0xA0, 0xBF, by rw [show n / 4096 = 0 by omega], by omega, by omega⟩
  · split
    · exact ⟨0x80, 0x9F, by rw [show n / 4096 = 0xD by omega], by omega, by omega⟩
    · rw [if_pos (by omega), show (n / 4096 + 0xE0) % 0x10 = n / 4096 by omega]
      exact ⟨0x80, 0xBF, rfl, by omega, by omega⟩

/-- As `lead_three`, for four bytes : the range keeps out what three bytes can hold and what
lies past the last character. -/
theorem lead_four {n : Nat} (low : 0xFFFF < n) (high : n < 0x110000) :
    ∃ first last, lead (UInt8.ofNat (n / 262144 % 0x08 + 0xF0)) =
        .pending ⟨3, first, last, n / 262144⟩ ∧
      first ≤ n / 4096 % 0x40 + 0x80 ∧ n / 4096 % 0x40 + 0x80 ≤ last := by
  have hn : (UInt8.ofNat (n / 262144 % 0x08 + 0xF0)).toNat = n / 262144 + 0xF0 := by
    rw [UInt8.toNat_ofNat']
    omega
  simp only [lead, hn]
  rw [if_neg (by omega), if_neg (by omega), if_neg (by omega), if_neg (by omega),
    if_neg (by omega), if_neg (by omega)]
  split
  · exact ⟨0x90, 0xBF, by rw [show n / 262144 = 0 by omega], by omega, by omega⟩
  · split
    · rw [show (n / 262144 + 0xF0) % 8 = n / 262144 by omega]
      exact ⟨0x80, 0xBF, rfl, by omega, by omega⟩
    · rw [if_pos (by omega)]
      exact ⟨0x80, 0x8F, by rw [show n / 262144 = 4 by omega], by omega, by omega⟩

/-- A byte behind the lead byte adds its six bits. -/
theorem feed_tail (owed low high value : Nat) {m : Nat} (hlow : low ≤ m % 0x40 + 0x80)
    (hhigh : m % 0x40 + 0x80 ≤ high) :
    (Pending.mk owed low high value).feed (UInt8.ofNat (m % 0x40 + 0x80)) =
      if owed ≤ 1 then .char (Char.ofNat (value * 0x40 + m % 0x40))
      else .pending ⟨owed - 1, 0x80, 0xBF, value * 0x40 + m % 0x40⟩ := by
  have hm : (UInt8.ofNat (m % 0x40 + 0x80)).toNat = m % 0x40 + 0x80 := by
    rw [UInt8.toNat_ofNat']
    omega
  simp only [Pending.feed, hm]
  rw [if_pos ⟨hlow, hhigh⟩, show (m % 0x40 + 0x80) % 0x40 = m % 0x40 by omega]

/-! ## Reading back -/

/-- The machine reads the bytes of a character as that character. -/
theorem decodeFrom_utf8EncodeChar (c : Char) (bytes : Bytes) (read : List Char) :
    decodeFrom none (String.utf8EncodeChar c ++ bytes) read =
      decodeFrom none bytes (c :: read) := by
  have hv := toNat_bounds c
  have hc : Char.ofNat c.toNat = c := Char.ofNat_toNat c
  rw [String.utf8EncodeChar, show c.val.toNat = c.toNat from rfl]
  generalize c.toNat = n at hv hc
  split
  · simp only [List.cons_append, List.nil_append, decodeFrom, lead_one (show n < 0x80 by omega), hc]
  · split
    · have h1 := lead_two (n := n) (by omega) (by omega)
      have h2 := feed_tail 1 0x80 0xBF (n / 64) (m := n) (by omega) (by omega)
      rw [if_pos (Nat.le_refl 1), show n / 64 * 0x40 + n % 0x40 = n by omega, hc] at h2
      simp only [List.cons_append, List.nil_append, decodeFrom, h1, h2]
    · split
      · obtain ⟨first, last, h1, hlow, hhigh⟩ :=
          lead_three (n := n) (by omega) (by omega) (by omega)
        have h2 := feed_tail 2 first last (n / 4096) hlow hhigh
        have h3 := feed_tail 1 0x80 0xBF (n / 4096 * 0x40 + n / 64 % 0x40) (m := n) (by omega)
          (by omega)
        rw [if_neg (by decide)] at h2
        rw [if_pos (Nat.le_refl 1),
          show (n / 4096 * 0x40 + n / 64 % 0x40) * 0x40 + n % 0x40 = n by omega, hc] at h3
        simp only [List.cons_append, List.nil_append, decodeFrom, h1, h2, h3]
      · obtain ⟨first, last, h1, hlow, hhigh⟩ := lead_four (n := n) (by omega) (by omega)
        have h2 := feed_tail 3 first last (n / 262144) hlow hhigh
        have h3 := feed_tail 2 0x80 0xBF (n / 262144 * 0x40 + n / 4096 % 0x40) (m := n / 64)
          (by omega) (by omega)
        have h4 := feed_tail 1 0x80 0xBF
          ((n / 262144 * 0x40 + n / 4096 % 0x40) * 0x40 + n / 64 % 0x40) (m := n)
          (by omega) (by omega)
        rw [if_neg (by decide)] at h2 h3
        rw [if_pos (Nat.le_refl 1),
          show ((n / 262144 * 0x40 + n / 4096 % 0x40) * 0x40 + n / 64 % 0x40) * 0x40 +
            n % 0x40 = n by omega, hc] at h4
        simp only [List.cons_append, List.nil_append, decodeFrom, h1, h2, h3, h4]

/-- A text is read back in front of any bytes. -/
theorem decodeFrom_encode (text : List Char) (bytes : Bytes) (read : List Char) :
    decodeFrom none (encode text ++ bytes) read = decodeFrom none bytes (text.reverse ++ read) := by
  induction text generalizing read with
  | nil => rfl
  | cons c text ih =>
    rw [encode_cons, List.append_assoc, decodeFrom_utf8EncodeChar, ih, List.reverse_cons,
      List.append_assoc, List.singleton_append]

theorem decode?_encode (text : List Char) : decode? (encode text) = some text := by
  have h := decodeFrom_encode text [] []
  rw [List.append_nil] at h
  rw [decode?, h, List.append_nil, decodeFrom, List.reverse_reverse]

/-- What can be read without loss is read alike by the reader that replaces what it cannot. -/
theorem decodeLossyFrom_of_decodeFrom : ∀ {bytes : Bytes} {p : Option Pending}
    {read text : List Char}, decodeFrom p bytes read = some text →
      decodeLossyFrom p bytes read = text
  | [], none, _, _, h => Option.some.inj h
  | [], some _, _, _, h => by cases h
  | b :: bytes, none, read, text, h => by
    rw [decodeFrom] at h
    rw [decodeLossyFrom]
    cases hb : lead b <;> simp only [hb] at h ⊢
    · exact decodeLossyFrom_of_decodeFrom h
    · exact decodeLossyFrom_of_decodeFrom h
    · cases h
  | b :: bytes, some p, read, text, h => by
    rw [decodeFrom] at h
    rw [decodeLossyFrom]
    cases hb : p.feed b <;> simp only [hb] at h ⊢
    · exact decodeLossyFrom_of_decodeFrom h
    · exact decodeLossyFrom_of_decodeFrom h
    · cases h

/-- A text is read back from its bytes, and nothing is replaced. -/
theorem decodeLossy_encode (text : List Char) : decodeLossy (encode text) = text :=
  decodeLossyFrom_of_decodeFrom (decode?_encode text)

theorem toString?_ofString (s : String) : toString? (ofString s) = some s := by
  rw [toString?, ofString, decode?_encode, Option.map_some, String.ofList_toList]

theorem ofString_inj {s t : String} : ofString s = ofString t ↔ s = t := by
  refine ⟨fun h => ?_, congrArg ofString⟩
  rw [← Option.some_inj, ← toString?_ofString s, h, toString?_ofString]

end Gatehouse.Utf8
