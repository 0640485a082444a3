/-!
# Widths of numbers

The ranges of whole numbers that fit into words: 64 bits with a sign, 64 bits without one,
and 32 bits without one.
-/

namespace Gatehouse.Width

/-- The least number of 64 bits with a sign. -/
abbrev minSigned : Int := -9223372036854775808

/-- The greatest number of 64 bits with a sign. -/
abbrev maxSigned : Int := 9223372036854775807

/-- The greatest number of 64 bits without a sign. -/
abbrev maxUnsigned : Nat := 18446744073709551615

/-- How many numbers of 32 bits without a sign there are. -/
abbrev count32 : Nat := 4294967296

/-- Whether a number fits into 64 bits with a sign. -/
def fitsSigned (n : Int) : Bool :=
  minSigned ≤ n && n ≤ maxSigned

end Gatehouse.Width
