import Gatehouse.Number.Notation

/-!
# Spans of time

A span is a number of nanoseconds. Its diagnostic text takes the largest of four units in
which it is at least one, and as many decimal places as it needs.
-/

namespace Gatehouse

/-- A span of time. -/
structure Span where
  nanos : Nat
deriving Repr, DecidableEq

namespace Span

/-- How many nanoseconds a second has. -/
abbrev perSecond : Nat := 1000000000

/-- How many nanoseconds a millisecond has. -/
abbrev perMilli : Nat := 1000000

/-- How many nanoseconds a microsecond has. -/
abbrev perMicro : Nat := 1000

def ofSeconds (n : Nat) : Span := ⟨n * perSecond⟩

def ofMillis (n : Nat) : Span := ⟨n * perMilli⟩

def ofMicros (n : Nat) : Span := ⟨n * perMicro⟩

/-- The span in seconds, in double precision: the whole seconds plus the fraction. -/
def seconds (s : Span) : Binary64 :=
  (Binary64.ofNat (s.nanos / perSecond)).add
    ((Binary64.ofNat (s.nanos % perSecond)).div (Binary64.ofNat perSecond))

/-- The digits of `n`, filled up to `width`. -/
def padded (width n : Nat) : List Char :=
  let digits := Nat.toDigits 10 n
  List.replicate (width - digits.length) '0' ++ digits

/-- `nanos` in units of `10 ^ places` nanoseconds. -/
def inUnits (places nanos : Nat) : String :=
  let whole := nanos / Nat.pow 10 places
  let fraction :=
    ((padded places (nanos % Nat.pow 10 places)).reverse.dropWhile (· == '0')).reverse
  toString whole ++ if places = 0 ∨ fraction.isEmpty then "" else "." ++ String.ofList fraction

/-- The diagnostic text of a span. -/
def debug (s : Span) : String :=
  if perSecond ≤ s.nanos then inUnits 9 s.nanos ++ "s"
  else if perMilli ≤ s.nanos then inUnits 6 s.nanos ++ "ms"
  else if perMicro ≤ s.nanos then inUnits 3 s.nanos ++ "µs"
  else inUnits 0 s.nanos ++ "ns"

end Span

end Gatehouse
