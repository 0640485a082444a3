import Gatehouse.Bytes.Base64Url
import Mathlib.Tactic.SplitIfs

/-!
# Base64url has one written form

`Base64Url.decode?_encode` says that what is written reads back. Here is the other direction :
what is read is what was written, character for character (`decode?_eq_some_iff`). So a text
cannot be respelled and still stand for the same bytes, and every text that is read is made of
the sixty-four characters of the alphabet (`isSome_value?_of_mem_encode`), among which there
is no dot.
-/

namespace Gatehouse.Base64Url

/-! ## The alphabet -/

theorem isSome_value?_digit {n : Nat} (h : n < 64) : (value? (digit n)).isSome = true := by
  rw [value?_digit n h]
  rfl

theorem value?_lt {c : Char} {n : Nat} (h : value? c = some n) : n < 64 := by
  simp only [value?] at h
  split_ifs at h <;> simp only [Option.some.injEq] at h <;> omega

/-- A character of the alphabet is the one that is written for its value. -/
theorem digit_of_value? {c : Char} {n : Nat} (h : value? c = some n) : digit n = c := by
  have hc : Char.ofNat c.toNat = c := Char.ofNat_toNat c
  simp only [value?] at h
  split_ifs at h with h1 h2 h3 h4 h5 <;> simp only [Option.some.injEq] at h
  · rw [digit, if_pos (by omega), show 65 + n = c.toNat by omega, hc]
  · rw [digit, if_neg (by omega), if_pos (by omega), show 71 + n = c.toNat by omega, hc]
  · rw [digit, if_neg (by omega), if_neg (by omega), if_pos (by omega),
      show n - 4 = c.toNat by omega, hc]
  · rw [digit, if_neg (by omega), if_neg (by omega), if_neg (by omega), if_pos h.symm, ← hc, h4]
  · rw [digit, if_neg (by omega), if_neg (by omega), if_neg (by omega), if_neg (by omega), ← hc,
      h5]

theorem isSome_value?_of_mem_encode {c : Char} (bytes : Bytes) (h : c ∈ encode bytes) :
    (value? c).isSome = true := by
  induction bytes using encode.induct with
  | case1 => exact absurd h List.not_mem_nil
  | case2 a =>
    have ha := a.toNat_lt
    simp only [encode, List.mem_cons, List.not_mem_nil, or_false] at h
    rcases h with rfl | rfl <;> exact isSome_value?_digit (by omega)
  | case3 a b =>
    have ha := a.toNat_lt
    have hb := b.toNat_lt
    simp only [encode, List.mem_cons, List.not_mem_nil, or_false] at h
    rcases h with rfl | rfl | rfl <;> exact isSome_value?_digit (by omega)
  | case4 a b c rest ih =>
    have ha := a.toNat_lt
    have hb := b.toNat_lt
    have hc := c.toNat_lt
    simp only [encode, List.mem_cons] at h
    rcases h with rfl | rfl | rfl | rfl | h
    · exact isSome_value?_digit (by omega)
    · exact isSome_value?_digit (by omega)
    · exact isSome_value?_digit (by omega)
    · exact isSome_value?_digit (by omega)
    · exact ih h

/-- The alphabet is printable, and nothing in it has to be escaped in a quoted text. -/
theorem printable_of_mem_encode {bytes : Bytes} {c : Char} (h : c ∈ encode bytes) :
    0x21 ≤ c.toNat ∧ c.toNat ≤ 0x7E ∧ c ≠ '"' ∧ c ≠ '\\' := by
  obtain ⟨n, hn⟩ := Option.isSome_iff_exists.mp (isSome_value?_of_mem_encode bytes h)
  have hquote : c ≠ '"' := by
    rintro rfl
    cases hn
  have hslash : c ≠ '\\' := by
    rintro rfl
    cases hn
  simp only [value?] at hn
  split_ifs at hn <;> exact ⟨by omega, by omega, hquote, hslash⟩

/-- No point is written, so one can separate what is. -/
theorem dot_not_mem_encode (bytes : Bytes) : '.' ∉ encode bytes := by
  intro h
  have := isSome_value?_of_mem_encode bytes h
  exact absurd this (by decide)

/-! ## The written form -/

/-- A byte that was put together from six bits and two is taken apart again. -/
theorem toNat_ofNat_sextets {w x : Nat} (hw : w < 64) (hx : x < 64) :
    (UInt8.ofNat (w * 4 + x / 16)).toNat = w * 4 + x / 16 := by
  rw [UInt8.toNat_ofNat']
  omega

/-- Bytes have one text : what is read as them is what is written for them. -/
theorem encode_of_decode? : ∀ {text : List Char} {bytes : Bytes},
    decode? text = some bytes → encode bytes = text
  | [], bytes, h => by
    obtain rfl : [] = bytes := Option.some.inj h
    rfl
  | [_], _, h => by simp [decode?] at h
  | [w, x], bytes, h => by
    simp only [decode?, bind, Option.bind_eq_some_iff] at h
    obtain ⟨m, hm, n, hn, h⟩ := h
    split_ifs at h with hz
    obtain rfl := Option.some.inj h
    have hm' := value?_lt hm
    have hn' := value?_lt hn
    rw [encode, toNat_ofNat_sextets hm' hn', show (m * 4 + n / 16) / 4 = m by omega,
      show (m * 4 + n / 16) % 4 * 16 = n by omega, digit_of_value? hm, digit_of_value? hn]
  | [w, x, y], bytes, h => by
    simp only [decode?, bind, Option.bind_eq_some_iff] at h
    obtain ⟨m, hm, n, hn, k, hk, h⟩ := h
    split_ifs at h with hz
    obtain rfl := Option.some.inj h
    have hm' := value?_lt hm
    have hn' := value?_lt hn
    have hk' := value?_lt hk
    have h2 : (UInt8.ofNat (n % 16 * 16 + k / 4)).toNat = n % 16 * 16 + k / 4 := by
      rw [UInt8.toNat_ofNat']
      omega
    rw [encode, toNat_ofNat_sextets hm' hn', h2, show (m * 4 + n / 16) / 4 = m by omega,
      show (m * 4 + n / 16) % 4 * 16 + (n % 16 * 16 + k / 4) / 16 = n by omega,
      show (n % 16 * 16 + k / 4) % 16 * 4 = k by omega, digit_of_value? hm, digit_of_value? hn,
      digit_of_value? hk]
  | w :: x :: y :: z :: rest, bytes, h => by
    simp only [decode?, bind, Option.bind_eq_some_iff] at h
    obtain ⟨m, hm, n, hn, k, hk, l, hl, tail, htail, h⟩ := h
    obtain rfl := Option.some.inj h
    have hm' := value?_lt hm
    have hn' := value?_lt hn
    have hk' := value?_lt hk
    have hl' := value?_lt hl
    have h2 : (UInt8.ofNat (n % 16 * 16 + k / 4)).toNat = n % 16 * 16 + k / 4 := by
      rw [UInt8.toNat_ofNat']
      omega
    have h3 : (UInt8.ofNat (k % 4 * 64 + l)).toNat = k % 4 * 64 + l := by
      rw [UInt8.toNat_ofNat']
      omega
    rw [encode, toNat_ofNat_sextets hm' hn', h2, h3, show (m * 4 + n / 16) / 4 = m by omega,
      show (m * 4 + n / 16) % 4 * 16 + (n % 16 * 16 + k / 4) / 16 = n by omega,
      show (n % 16 * 16 + k / 4) % 16 * 4 + (k % 4 * 64 + l) / 64 = k by omega,
      show (k % 4 * 64 + l) % 64 = l by omega, digit_of_value? hm, digit_of_value? hn,
      digit_of_value? hk, digit_of_value? hl, encode_of_decode? htail]

/-- Every byte sequence has one text, and a text without that form has no bytes. -/
theorem decode?_eq_some_iff {text : List Char} {bytes : Bytes} :
    decode? text = some bytes ↔ text = encode bytes := by
  constructor
  · intro h
    exact (encode_of_decode? h).symm
  · rintro rfl
    exact decode?_encode bytes

end Gatehouse.Base64Url
