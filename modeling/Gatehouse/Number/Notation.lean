import Gatehouse.Number.Shortest
import Gatehouse.Number.Width

/-!
# How numbers are written

Two ways to write a double: `Notation.plain` never uses an exponent, and
`Notation.marked` always shows that the number is not a whole one by type, with a
point or an exponent. Reading is by the grammar `Notation.read?`: a sign, digits with at
most one point, an exponent, or a word for what is no number.
-/

namespace Gatehouse.Notation

/-- The digits of a decimal and the number of them before the point. -/
def parts (d : Decimal) : List Char × Int :=
  let digits := Nat.toDigits 10 d.digits
  (digits, digits.length + d.exponent)

/-- Digits with a point after the first `point` of them, filled with zeros on either side. -/
def positional (digits : List Char) (point : Int) : List Char :=
  if point ≤ 0 then '0' :: '.' :: List.replicate point.natAbs '0' ++ digits
  else if digits.length ≤ point.toNat then
    digits ++ List.replicate (point.toNat - digits.length) '0'
  else digits.take point.toNat ++ '.' :: digits.drop point.toNat

/-- The text of an unsigned decimal without an exponent. -/
def plainDecimal (d : Decimal) : List Char :=
  if d.digits = 0 then ['0'] else
  let (digits, point) := parts d
  positional digits point

/-- The sign of a number. -/
def sign (negative : Bool) : List Char :=
  if negative then ['-'] else []

/-- The fewest digits that read back, never with an exponent; of two equally near decimals
the upper one. -/
def plain : Binary64 → String
  | .nan => "NaN"
  | .infinite negative => String.ofList (sign negative ++ ['i', 'n', 'f'])
  | .finite negative mantissa exponent =>
    String.ofList (sign negative ++ plainDecimal (Shortest.ofFinite .up mantissa exponent))

/-- The text of an unsigned decimal that has a point or an exponent: positional from
`1e-5` to below `1e16`. -/
def markedDecimal (d : Decimal) : List Char :=
  if d.digits = 0 then ['0', '.', '0'] else
  let (digits, point) := parts d
  if -4 ≤ point ∧ point ≤ 16 then
    let text := positional digits point
    if digits.length ≤ point.toNat then text ++ ['.', '0'] else text
  else
    let exponent := point - 1
    let fraction := digits.drop 1
    digits.take 1 ++ (if fraction.isEmpty then [] else '.' :: fraction) ++
      'e' :: (if exponent < 0 then '-' else '+') :: Nat.toDigits 10 exponent.natAbs

/-- The fewest digits that read back, with a point or an exponent; of two equally near
decimals the even one. -/
def marked : Binary64 → String
  | .nan => "NaN"
  | .infinite negative => String.ofList (sign negative ++ ['i', 'n', 'f'])
  | .finite negative mantissa exponent =>
    String.ofList (sign negative ++ markedDecimal (Shortest.ofFinite .even mantissa exponent))

/-- The decimal digits of a whole number, with its sign. -/
def int (n : Int) : List Char :=
  sign (n < 0) ++ Nat.toDigits 10 n.natAbs

/-! ## Reading -/

def isDigit (c : Char) : Bool :=
  48 ≤ c.toNat && c.toNat ≤ 57

/-- The number that digits stand for. -/
def ofDigits (digits : List Char) : Nat :=
  digits.foldl (fun n c => n * 10 + (c.toNat - 48)) 0

/-- A sign in front of a text, and the rest. -/
def signOf : List Char → Bool × List Char
  | '-' :: rest => (true, rest)
  | '+' :: rest => (false, rest)
  | text => (false, text)

/-- A whole number: a sign, and digits to the end. -/
def int? (text : List Char) : Option Int :=
  let (negative, digits) := signOf text
  if digits.isEmpty || !digits.all isDigit then none
  else some (Binary64.signed negative (ofDigits digits))

/-- A whole number of 64 bits. -/
def int64? (text : List Char) : Option Int :=
  (int? text).filter Width.fitsSigned

/-- The letters in lower case, as far as ASCII goes. -/
def lower (text : List Char) : List Char :=
  text.map Char.toLower

/-- An exponent, which may be missing. -/
def exponent? : List Char → Option Int
  | [] => some 0
  | c :: rest => if c = 'e' ∨ c = 'E' then int? rest else none

/-- Digits, a point and digits, of which one may be missing, and an exponent. -/
def decimal? (text : List Char) : Option Decimal := do
  let whole := text.takeWhile isDigit
  let rest := text.dropWhile isDigit
  let (fraction, rest) := match rest with
    | '.' :: rest => (rest.takeWhile isDigit, rest.dropWhile isDigit)
    | rest => ([], rest)
  if whole.isEmpty && fraction.isEmpty then none
  else
    let exponent ← exponent? rest
    return ⟨ofDigits (whole ++ fraction), exponent - fraction.length⟩

/-- The double that a text stands for: a decimal, or `inf`, `infinity` or `nan` in any case,
with or without a sign. -/
def read? (text : List Char) : Option Binary64 :=
  let (negative, rest) := signOf text
  if lower rest = "inf".toList ∨ lower rest = "infinity".toList then some (.infinite negative)
  else if lower rest = "nan".toList then some .nan
  else (decimal? rest).map fun d => Binary64.ofDecimal negative d.digits d.exponent

end Gatehouse.Notation
