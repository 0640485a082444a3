import Gatehouse.Digest.Sha512

/-!
# HMAC with SHA-512

The keyed digest that signs tokens. A key enters as one block: longer keys are digested
first, shorter ones filled with zeros (`Hmac.block`), so two keys with one block are one
key (`Hmac.sign_eq_of_block_eq`).
-/

namespace Gatehouse.Hmac

/-- The key as a block of 128 bytes. -/
def block (key : Bytes) : Bytes :=
  let short := if key.length ≤ 128 then key else Sha512.digest key
  short ++ List.replicate (128 - short.length) 0

/-- The signature of a message under the key of a block. -/
def signBlock (block message : Bytes) : Bytes :=
  Sha512.digest (block.map (· ^^^ 0x5c) ++ Sha512.digest (block.map (· ^^^ 0x36) ++ message))

/-- The signature of a message under a key. -/
def sign (key message : Bytes) : Bytes :=
  signBlock (block key) message

/-- Keys of one block sign alike. -/
theorem sign_eq_of_block_eq {k l : Bytes} (h : block k = block l) (message : Bytes) :
    sign k message = sign l message := by
  rw [sign, sign, h]

end Gatehouse.Hmac
