import Gatehouse.Time.Span

/-!
# Instants

An instant is a number of seconds since 1970 began in UTC, and nanoseconds on top of it; a
leap second has more than 10^9 of these. Instants have a first and a last second
(`Instant.minSeconds`, `Instant.maxSeconds`). They are written as dates in the Gregorian
calendar, continued in both directions (`Civil.ofDays`).
-/

namespace Gatehouse

/-- A point in time. -/
structure Instant where
  seconds : Int
  nanos : Nat := 0
deriving Repr, DecidableEq

namespace Instant

/-- The first second: the year 262143 before the year zero begins. -/
def minSeconds : Int := -8334601228800

/-- The last second: the year 262142 ends. -/
def maxSeconds : Int := 8210266876799

/-- Whether a second is in the range of instants. -/
def inRange (seconds : Int) : Bool :=
  minSeconds ≤ seconds && seconds ≤ maxSeconds

/-- The start of a second, if it is in range. -/
def ofSeconds? (seconds : Int) : Option Instant :=
  if inRange seconds then some ⟨seconds, 0⟩ else none

/-- The start of 1970. -/
def epoch : Instant := ⟨0, 0⟩

/-- The order of time: by seconds, then by nanoseconds. -/
protected def le (a b : Instant) : Prop :=
  a.seconds < b.seconds ∨ (a.seconds = b.seconds ∧ a.nanos ≤ b.nanos)

instance : LE Instant := ⟨Instant.le⟩

instance (a b : Instant) : Decidable (a ≤ b) :=
  inferInstanceAs (Decidable (a.seconds < b.seconds ∨ (a.seconds = b.seconds ∧ a.nanos ≤ b.nanos)))

/-- The instant without its fraction of a second. A leap second stays one. -/
def truncate (t : Instant) : Instant :=
  ⟨t.seconds, if t.nanos < Span.perSecond then 0 else Span.perSecond⟩

/-- The instant a positive number of whole seconds later, if it is in range. -/
def addSeconds? (t : Instant) (n : Int) : Option Instant :=
  let nanos := if t.nanos < Span.perSecond then t.nanos else t.nanos - Span.perSecond
  if inRange (t.seconds + n) then some ⟨t.seconds + n, nanos⟩ else none

end Instant

/-! ## Dates -/

/-- A date of the Gregorian calendar. -/
structure Civil where
  year : Int
  month : Nat
  day : Nat
deriving Repr, DecidableEq

namespace Civil

/-- The date that lies `days` days after the first of January 1970. The year is counted from
March on, in cycles of 400 years. -/
def ofDays (days : Int) : Civil :=
  let shifted := days + 719468
  let cycle := shifted.fdiv 146097
  let ofCycle := (shifted - cycle * 146097).toNat
  let ofYear := (ofCycle - ofCycle / 1460 + ofCycle / 36524 - ofCycle / 146096) / 365
  let day := ofCycle - (365 * ofYear + ofYear / 4 - ofYear / 100)
  let fromMarch := (5 * day + 2) / 153
  let month := if fromMarch < 10 then fromMarch + 3 else fromMarch - 9
  let year := cycle * 400 + ofYear + (if month ≤ 2 then 1 else 0)
  ⟨year, month, day - (153 * fromMarch + 2) / 5 + 1⟩

/-- The digits of a year: four, or a sign and at least four. -/
def yearText (year : Int) : List Char :=
  if 0 ≤ year ∧ year ≤ 9999 then Span.padded 4 year.natAbs
  else (if year < 0 then '-' else '+') :: Span.padded 4 year.natAbs

/-- The date with hyphens. -/
def text (d : Civil) : List Char :=
  yearText d.year ++ '-' :: Span.padded 2 d.month ++ '-' :: Span.padded 2 d.day

end Civil

namespace Instant

/-- The fraction of a second, in as few of three, six or nine digits as it needs. -/
def fraction (nanos : Nat) : List Char :=
  if nanos = 0 then []
  else if nanos % Span.perMilli = 0 then '.' :: Span.padded 3 (nanos / Span.perMilli)
  else if nanos % Span.perMicro = 0 then '.' :: Span.padded 6 (nanos / Span.perMicro)
  else '.' :: Span.padded 9 nanos

/-- Date and time of day with their separator, without a zone. -/
def civilText (separator : Char) (t : Instant) : List Char :=
  let days := t.seconds.fdiv 86400
  let ofDay := (t.seconds - days * 86400).toNat
  let second := ofDay % 60 + t.nanos / Span.perSecond
  (Civil.ofDays days).text ++ separator :: Span.padded 2 (ofDay / 3600) ++
    ':' :: Span.padded 2 (ofDay / 60 % 60) ++ ':' :: Span.padded 2 second ++
    fraction (t.nanos % Span.perSecond)

/-- The RFC 3339 text of an instant, with the zone as an offset. -/
def rfc3339 (t : Instant) : String :=
  String.ofList (civilText 'T' t) ++ "+00:00"

/-- The RFC 3339 text to the second, with a letter for the zone. -/
def rfc3339Seconds (t : Instant) : String :=
  let nanos := if t.nanos < Span.perSecond then 0 else Span.perSecond
  String.ofList (civilText 'T' ⟨t.seconds, nanos⟩) ++ "Z"

/-- The text of an instant for people. -/
def display (t : Instant) : String :=
  String.ofList (civilText ' ' t) ++ " UTC"

/-- The diagnostic text of an instant. -/
def debug (t : Instant) : String :=
  String.ofList (civilText 'T' t) ++ "Z"

end Instant

end Gatehouse
