import Gatehouse.Bytes.Hex

/-!
# JSON as written

The tree of a JSON text before anything is decided about it: strings as their pieces,
numbers as their digits, members in their order and with their repetitions. Whether a
string is text, a number has a value, or the nesting is too deep, is a question to the
tree (`Gatehouse.Json.Value`), so a reader that skips a part of a document need not ask it.
`Node.read?` takes a whole document, with blanks around it.
-/

namespace Gatehouse.Json

/-- A piece of a string: a byte that stands for itself, a character behind a backslash, or
a code unit behind a backslash and a `u`. -/
inductive Piece
  | byte (b : UInt8)
  | escape (c : Char)
  | unit (u : Nat)
deriving Repr, DecidableEq

/-- The digits of a number: the whole part, the fraction, and the exponent with its sign. -/
structure Numeral where
  negative : Bool
  whole : List Char
  fraction : Option (List Char)
  exponent : Option (Bool × List Char)
deriving Repr, DecidableEq

/-- A value as written. -/
inductive Node
  | null
  | bool (b : Bool)
  | number (n : Numeral)
  | string (pieces : List Piece)
  | array (items : List Node)
  | object (members : List (List Piece × Node))
deriving Repr

namespace Reader

/-! ## Lexemes -/

def isBlank (b : UInt8) : Bool :=
  b == 0x20 || b == 0x09 || b == 0x0A || b == 0x0D

/-- The bytes behind the blanks. -/
def skip (bytes : Bytes) : Bytes :=
  bytes.dropWhile isBlank

/-- The rest behind a word. -/
def word (w : Bytes) (bytes : Bytes) : Option Bytes :=
  if w.isPrefixOf bytes then some (bytes.drop w.length) else none

/-- The character that a letter behind a backslash stands for. -/
def escapeOf (b : UInt8) : Option Char :=
  if b == 0x22 then some '"'
  else if b == 0x5C then some '\\'
  else if b == 0x2F then some '/'
  else if b == 0x62 then some '\x08'
  else if b == 0x66 then some '\x0c'
  else if b == 0x6E then some '\n'
  else if b == 0x72 then some '\r'
  else if b == 0x74 then some '\t'
  else none

/-- The code unit of four hexadecimal digits. -/
def unitOf (a b c d : UInt8) : Option Nat := do
  let a ← Hex.value? (Char.ofNat a.toNat)
  let b ← Hex.value? (Char.ofNat b.toNat)
  let c ← Hex.value? (Char.ofNat c.toNat)
  let d ← Hex.value? (Char.ofNat d.toNat)
  return ((a * 16 + b) * 16 + c) * 16 + d

/-- The pieces of a string behind its opening quote, and the bytes behind the closing one. -/
def string : Bytes → List Piece → Option (List Piece × Bytes)
  | [], _ => none
  | b :: rest, done =>
    if b == 0x22 then some (done.reverse, rest)
    else if b == 0x5C then
      match rest with
      | [] => none
      | e :: rest =>
        if e == 0x75 then
          match rest with
          | a :: b :: c :: d :: rest =>
            match unitOf a b c d with
            | some u => string rest (.unit u :: done)
            | none => none
          | _ => none
        else
          match escapeOf e with
          | some c => string rest (.escape c :: done)
          | none => none
    else if b < 0x20 then none
    else string rest (.byte b :: done)

def isDigit (b : UInt8) : Bool :=
  0x30 ≤ b && b ≤ 0x39

/-- The digits in front, and the bytes behind them. -/
def digits (bytes : Bytes) : List Char × Bytes :=
  ((bytes.takeWhile isDigit).map fun b => Char.ofNat b.toNat, bytes.dropWhile isDigit)

/-- At least one digit. -/
def digits1 (bytes : Bytes) : Option (List Char × Bytes) :=
  let (ds, rest) := digits bytes
  if ds.isEmpty then none else some (ds, rest)

/-- A fraction, which may be missing. -/
def fraction : Bytes → Option (Option (List Char) × Bytes)
  | b :: rest =>
    if b == 0x2E then (digits1 rest).map fun (ds, rest) => (some ds, rest)
    else some (none, b :: rest)
  | [] => some (none, [])

/-- An exponent, which may be missing. -/
def exponent : Bytes → Option (Option (Bool × List Char) × Bytes)
  | b :: rest =>
    if b == 0x65 || b == 0x45 then
      let (negative, rest) := match rest with
        | s :: tail => if s == 0x2D then (true, tail) else if s == 0x2B then (false, tail)
            else (false, rest)
        | [] => (false, rest)
      (digits1 rest).map fun (ds, rest) => (some (negative, ds), rest)
    else some (none, b :: rest)
  | [] => some (none, [])

/-- A number. A zero in front of other digits is refused. -/
def numeral (bytes : Bytes) : Option (Numeral × Bytes) := do
  let (negative, rest) := match bytes with
    | b :: tail => if b == 0x2D then (true, tail) else (false, bytes)
    | [] => (false, bytes)
  let (whole, rest) ← digits1 rest
  if whole.head? == some '0' && whole.length ≠ 1 then none
  let (frac, rest) ← fraction rest
  let (exp, rest) ← exponent rest
  return (⟨negative, whole, frac, exp⟩, rest)

/-! ## Values -/

mutual

/-- The value that starts here, and the bytes behind it. -/
def value : Nat → Bytes → Option (Node × Bytes)
  | 0, _ => none
  | fuel + 1, bytes =>
    match bytes with
    | [] => none
    | b :: rest =>
      if b == 0x22 then (string rest []).map fun (ps, rest) => (.string ps, rest)
      else if b == 0x7B then
        match skip rest with
        | [] => none
        | c :: tail => if c == 0x7D then some (.object [], tail) else members fuel (c :: tail) []
      else if b == 0x5B then
        match skip rest with
        | [] => none
        | c :: tail => if c == 0x5D then some (.array [], tail) else items fuel (c :: tail) []
      else if b == 0x6E then (word [0x75, 0x6C, 0x6C] rest).map fun r => (.null, r)
      else if b == 0x74 then (word [0x72, 0x75, 0x65] rest).map fun r => (.bool true, r)
      else if b == 0x66 then (word [0x61, 0x6C, 0x73, 0x65] rest).map fun r => (.bool false, r)
      else (numeral (b :: rest)).map fun (n, r) => (.number n, r)

/-- The elements of an array from here on, behind those already read. -/
def items : Nat → Bytes → List Node → Option (Node × Bytes)
  | 0, _, _ => none
  | fuel + 1, bytes, done =>
    match value fuel (skip bytes) with
    | none => none
    | some (x, rest) =>
      match skip rest with
      | [] => none
      | b :: rest =>
        if b == 0x2C then items fuel rest (x :: done)
        else if b == 0x5D then some (.array (x :: done).reverse, rest)
        else none

/-- The members of an object from here on, behind those already read. -/
def members : Nat → Bytes → List (List Piece × Node) → Option (Node × Bytes)
  | 0, _, _ => none
  | fuel + 1, bytes, done =>
    match skip bytes with
    | [] => none
    | q :: rest =>
      if q != 0x22 then none else
      match string rest [] with
      | none => none
      | some (key, rest) =>
        match skip rest with
        | [] => none
        | colon :: rest =>
          if colon != 0x3A then none else
          match value fuel (skip rest) with
          | none => none
          | some (x, rest) =>
            match skip rest with
            | [] => none
            | b :: rest =>
              if b == 0x2C then members fuel rest ((key, x) :: done)
              else if b == 0x7D then some (.object ((key, x) :: done).reverse, rest)
              else none

end

end Reader

/-- The value that a document holds. -/
def Node.read? (bytes : Bytes) : Option Node :=
  match Reader.value (2 * bytes.length + 2) (Reader.skip bytes) with
  | some (x, rest) => if (Reader.skip rest).isEmpty then some x else none
  | none => none

end Gatehouse.Json
