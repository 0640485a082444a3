import Gatehouse.Bytes.Utf8

/-!
# Hexadecimal

Two lower-case digits a byte. `Hex.encode` writes them and `Hex.decode?` reads them back
(`decode?_encode`); the reader takes upper-case digits too.
-/

namespace Gatehouse.Hex

/-- The digit for a value below sixteen. -/
def digit (n : Nat) : Char :=
  if n < 10 then Char.ofNat (48 + n) else Char.ofNat (87 + n)

/-- The value of a digit of either case. -/
def value? (c : Char) : Option Nat :=
  let n := c.toNat
  if 48 ≤ n ∧ n ≤ 57 then some (n - 48)
  else if 97 ≤ n ∧ n ≤ 102 then some (n - 87)
  else if 65 ≤ n ∧ n ≤ 70 then some (n - 55)
  else none

/-- Two digits for each byte. -/
def encode (bytes : Bytes) : List Char :=
  bytes.flatMap fun b => [digit (b.toNat / 16), digit (b.toNat % 16)]

/-- The bytes that an even number of digits stands for. -/
def decode? : List Char → Option Bytes
  | [] => some []
  | h :: l :: rest => do
    let high ← value? h
    let low ← value? l
    let bytes ← decode? rest
    return UInt8.ofNat (high * 16 + low) :: bytes
  | [_] => none

/-- The digits of a number without leading zeros. -/
def ofNat (n : Nat) : List Char :=
  (Nat.toDigits 16 n)

theorem value?_digit : ∀ n < 16, value? (digit n) = some n := by
  decide

/-- Bytes are read back from their digits. -/
theorem decode?_encode (bytes : Bytes) : decode? (encode bytes) = some bytes := by
  induction bytes with
  | nil => rfl
  | cons b bytes ih =>
    have hb := b.toNat_lt
    have ih' : decode? (bytes.flatMap fun b => [digit (b.toNat / 16), digit (b.toNat % 16)]) =
      some bytes := ih
    simp only [encode, List.flatMap_cons, List.cons_append, List.nil_append, decode?,
      value?_digit _ (show b.toNat / 16 < 16 by omega),
      value?_digit _ (show b.toNat % 16 < 16 by omega), ih', bind, Option.bind, pure]
    rw [show b.toNat / 16 * 16 + b.toNat % 16 = b.toNat by omega, UInt8.ofNat_toNat]

end Gatehouse.Hex
