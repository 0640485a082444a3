import Gatehouse.Digest.Hmac
import Mathlib.Data.List.Basic
import Mathlib.Data.List.GetD
import Mathlib.Tactic.SplitIfs

/-!
# Keys of signatures

A key enters a signature as one block, and a shorter one is filled up with zeros. So keys that
differ in zeros at their ends only are one key, and a key of more than a block is one with its
digest (`Hmac.SameKey`). For any other two keys a message with the same signature under both is
more than a coincidence : it shows two messages with one digest (`Hmac.sign_eq_sign_iff`).
-/

namespace Gatehouse

/-- Two messages with one digest. -/
structure Sha512.Collision (m n : Bytes) : Prop where
  ne : m ≠ n
  digest : Sha512.digest m = Sha512.digest n

namespace Hmac

variable {k l : Bytes}

/-! ## Blocks -/

/-- What is filled up of a key : the key, or its digest where it is longer than a block. -/
def entered (key : Bytes) : Bytes :=
  if key.length ≤ 128 then key else Sha512.digest key

theorem length_entered_le (key : Bytes) : (entered key).length ≤ 128 := by
  rw [entered]
  split_ifs with h
  · exact h
  · rw [Sha512.length_digest]
    omega

theorem block_eq (key : Bytes) :
    block key = entered key ++ List.replicate (128 - (entered key).length) 0 :=
  rfl

theorem length_block (key : Bytes) : (block key).length = 128 := by
  have hle := length_entered_le key
  rw [block_eq, List.length_append, List.length_replicate]
  omega

/-- Two keys of which the same is filled up, but for zeros at the end. -/
def SameKey (k l : Bytes) : Prop :=
  ∃ m n, entered k ++ List.replicate m 0 = entered l ++ List.replicate n 0

/-- Zeros at the end make no difference to what is found at a place. -/
theorem getD_append_zeros (bytes : Bytes) (n i : Nat) :
    (bytes ++ List.replicate n 0).getD i 0 = bytes.getD i 0 := by
  rcases Nat.lt_or_ge i bytes.length with hi | hi
  · rw [List.getD_append _ _ _ _ hi]
  · rw [List.getD_append_right _ _ _ _ hi, List.getD_eq_default _ _ hi]
    rcases Nat.lt_or_ge (i - bytes.length) n with hn | hn
    · rw [List.getD_replicate _ hn]
    · rw [List.getD_eq_default]
      rwa [List.length_replicate]

/-- Keys have one block exactly if they are the same key. -/
theorem block_eq_block_iff : block k = block l ↔ SameKey k l := by
  constructor
  · intro h
    exact ⟨_, _, h⟩
  · rintro ⟨m, n, h⟩
    refine List.ext_getElem (by rw [length_block, length_block]) fun i hk hl => ?_
    rw [← List.getD_eq_getElem _ 0 hk, ← List.getD_eq_getElem _ 0 hl, block_eq, block_eq,
      getD_append_zeros, getD_append_zeros, ← getD_append_zeros _ m, h, getD_append_zeros]

/-- A key with zeros behind it is the same key as long as it fits in a block. -/
theorem sameKey_append_zeros (n : Nat) (h : k.length + n ≤ 128) :
    SameKey k (k ++ List.replicate n 0) := by
  have hlong : (k ++ List.replicate n 0).length ≤ 128 := by
    rwa [List.length_append, List.length_replicate]
  refine ⟨n, 0, ?_⟩
  rw [entered, entered, if_pos (Nat.le_of_add_right_le h), if_pos hlong, List.replicate_zero,
    List.append_nil]

/-- A key that does not fit in a block is the same key as its digest. -/
theorem sameKey_digest (h : 128 < k.length) : SameKey k (Sha512.digest k) := by
  have hshort : (Sha512.digest k).length ≤ 128 := by
    rw [Sha512.length_digest]
    omega
  refine ⟨0, 0, ?_⟩
  rw [entered, entered, if_neg (Nat.not_le.mpr h), if_pos hshort]

/-- A key that fits in a block and does not end with a zero. -/
structure IsPlain (key : Bytes) : Prop where
  fits : key.length ≤ 128
  getLast? : key.getLast? ≠ some 0

theorem IsPlain.entered_eq (h : IsPlain k) : entered k = k :=
  if_pos h.fits

/-- Zeros can be put only behind the one of two plain keys that is shorter. -/
theorem IsPlain.eq_of_append_zeros (hl : IsPlain l) {n : Nat} (h : k ++ List.replicate n 0 = l) :
    k = l := by
  cases n with
  | zero => rwa [List.replicate_zero, List.append_nil] at h
  | succ n =>
    refine absurd ?_ hl.getLast?
    rw [← h, List.replicate_succ', ← List.append_assoc, List.getLast?_concat]

/-- Plain keys are the same key only if they are equal. -/
theorem sameKey_iff_eq (hk : IsPlain k) (hl : IsPlain l) : SameKey k l ↔ k = l := by
  constructor
  · rintro ⟨m, n, h⟩
    rw [hk.entered_eq, hl.entered_eq] at h
    rcases List.append_eq_append_iff.mp h with ⟨zeros, rfl, hzeros⟩ | ⟨zeros, rfl, hzeros⟩
    · obtain ⟨-, hreplicate, -⟩ := List.append_eq_replicate_iff.mp hzeros.symm
      exact hl.eq_of_append_zeros (congrArg (k ++ ·) hreplicate.symm)
    · obtain ⟨-, hreplicate, -⟩ := List.append_eq_replicate_iff.mp hzeros.symm
      exact (hk.eq_of_append_zeros (congrArg (l ++ ·) hreplicate.symm)).symm
  · rintro rfl
    exact ⟨0, 0, rfl⟩

/-! ## Signatures -/

/-- The text whose digest is the signature of a message. -/
def outer (key message : Bytes) : Bytes :=
  (block key).map (· ^^^ 0x5c) ++ Sha512.digest ((block key).map (· ^^^ 0x36) ++ message)

/-- A signature is the digest of one message, which holds the key twice. -/
theorem sign_eq_digest (key message : Bytes) :
    sign key message = Sha512.digest (outer key message) :=
  rfl

/-- The block can be told from the message that is digested. -/
theorem block_eq_of_outer {message : Bytes} (h : outer k message = outer l message) :
    block k = block l := by
  have hpads : (block k).map (· ^^^ 0x5c) = (block l).map (· ^^^ 0x5c) :=
    List.append_inj_left h (by rw [List.length_map, List.length_map, length_block, length_block])
  have hinjective : Function.Injective fun b : UInt8 => b ^^^ 0x5c := fun a b hab => by
    have := congrArg (· ^^^ (0x5c : UInt8)) hab
    simpa [UInt8.xor_assoc] using this
  exact List.map_injective_iff.mpr hinjective hpads

/-- Two keys sign a message alike if they are the same key, or else by a collision of the texts
whose digests their signatures are. -/
theorem sign_eq_sign_iff (message : Bytes) :
    sign k message = sign l message ↔
      SameKey k l ∨ Sha512.Collision (outer k message) (outer l message) := by
  rw [← block_eq_block_iff]
  constructor
  · intro h
    rw [sign_eq_digest, sign_eq_digest] at h
    by_cases houter : outer k message = outer l message
    · exact Or.inl (block_eq_of_outer houter)
    · exact Or.inr ⟨houter, h⟩
  · rintro (h | h)
    · exact sign_eq_of_block_eq h message
    · rw [sign_eq_digest, sign_eq_digest, h.digest]

end Hmac

end Gatehouse
