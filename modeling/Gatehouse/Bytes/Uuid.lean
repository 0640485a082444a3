import Gatehouse.Bytes.Hex

/-!
# Random identifiers

Sixteen random bytes as a version 4 UUID: in two of them the bits for version and variant
are set, and the digits stand in five groups.
-/

namespace Gatehouse.Uuid

/-- The bytes with the bits of version 4. -/
def stamped (bytes : Bytes) : Bytes :=
  (bytes.modify 6 fun b => 0x40 ||| (b &&& 0x0F)).modify 8 fun b => 0x80 ||| (b &&& 0x3F)

/-- The text of sixteen bytes. -/
def ofBytes (bytes : Bytes) : String :=
  let digits := Hex.encode (stamped bytes)
  let group (start length : Nat) : String := String.ofList ((digits.drop start).take length)
  "-".intercalate [group 0 8, group 8 4, group 12 4, group 16 4, group 20 12]

end Gatehouse.Uuid
