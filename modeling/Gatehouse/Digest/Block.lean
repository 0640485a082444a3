import Gatehouse.Bytes.Utf8

/-!
# Messages in blocks

What the digests of this library share: numbers as big-endian bytes, a sequence cut into
blocks, and the padding that ends a message with its length in bits.
-/

namespace Gatehouse

/-- The number that bytes stand for, the highest first. -/
def bigEndian (bytes : Bytes) : Nat :=
  bytes.foldl (fun n b => n * 256 + b.toNat) 0

/-- The lowest `width` bytes of a number, the highest first. -/
def bytesOf : Nat → Nat → Bytes
  | 0, _ => []
  | width + 1, n => bytesOf width (n / 256) ++ [UInt8.ofNat (n % 256)]

theorem length_bytesOf (width n : Nat) : (bytesOf width n).length = width := by
  induction width generalizing n with
  | zero => rfl
  | succ width ih => simp [bytesOf, ih]

/-- The sequence in pieces of `n` bytes; the last one may be shorter. -/
def chunks (n : Nat) (bytes : Bytes) : List Bytes :=
  if _h : bytes = [] ∨ n = 0 then []
  else bytes.take n :: chunks n (bytes.drop n)
termination_by bytes.length
decreasing_by
  rw [not_or] at _h
  have := List.length_pos_iff.mpr _h.1
  simp only [List.length_drop]
  omega

/-- The message, a set bit, as few zeros as fill a block, and the length of the message in
bits as a number of `lengthSize` bytes. -/
def padded (blockSize lengthSize : Nat) (message : Bytes) : Bytes :=
  let used := (message.length + 1 + lengthSize) % blockSize
  message ++ 0x80 :: List.replicate ((blockSize - used) % blockSize) 0 ++
    bytesOf lengthSize (message.length * 8)

end Gatehouse
