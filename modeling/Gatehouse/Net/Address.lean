import Gatehouse.Bytes.Hex
import Gatehouse.Number.Width

/-!
# Network addresses

IP addresses of both families and socket addresses, as they are read and written. The
reader takes four decimal octets without leading zeros, or eight groups of at most four
hexadecimal digits, of which one run of zeros may be left out and the last two may be
written as octets. The writer leaves out the first of the longest runs of at least two zeros.
-/

namespace Gatehouse

/-- An IP address. -/
inductive IpAddress
  | v4 (a b c d : UInt8)
  | v6 (groups : Vector UInt16 8)
deriving DecidableEq

namespace IpAddress

/-! ## Reading -/

/-- The value of a digit to a base of at most sixteen. -/
def digit? (base : Nat) (c : Char) : Option Nat :=
  (Hex.value? c).filter fun n => n < base

/-- The digits in front, to a base of at most sixteen, and the rest. -/
def digits (base : Nat) (text : List Char) : List Nat × List Char :=
  (text.takeWhile (fun c => (digit? base c).isSome) |>.filterMap (digit? base),
    text.dropWhile fun c => (digit? base c).isSome)

/-- A number to a base, of at least one and at most `most` digits. -/
def number (base most : Nat) (leadingZeros : Bool) (text : List Char) :
    Option (Nat × List Char) :=
  let (ds, rest) := digits base text
  if ds.isEmpty || most < ds.length then none
  else if !leadingZeros && ds.head? == some 0 && 1 < ds.length then none
  else some (ds.foldl (fun n d => n * base + d) 0, rest)

/-- The rest behind a character. -/
def expect (c : Char) : List Char → Option (List Char)
  | [] => none
  | d :: rest => if d = c then some rest else none

def octet (text : List Char) : Option (UInt8 × List Char) := do
  let (n, rest) ← number 10 3 false text
  if n < 256 then some (UInt8.ofNat n, rest) else none

/-- Four octets with dots between them. -/
def readV4 (text : List Char) : Option ((UInt8 × UInt8 × UInt8 × UInt8) × List Char) := do
  let (a, text) ← octet text
  let (b, text) ← expect '.' text >>= octet
  let (c, text) ← expect '.' text >>= octet
  let (d, text) ← expect '.' text >>= octet
  return ((a, b, c, d), text)

/-- Two octets as a group. -/
def pair (a b : UInt8) : UInt16 :=
  UInt16.ofNat (a.toNat * 256 + b.toNat)

/-- Groups with colons between them, as many as there is room for, whether they end with four
octets, and the rest. `done` are the groups already read. -/
def readGroups : Nat → List UInt16 → List Char → List UInt16 × Bool × List Char
  | 0, done, text => (done, false, text)
  | room + 1, done, text =>
    let next := if done.isEmpty then some text else expect ':' text
    let octets := if room = 0 then none else next.bind readV4
    match octets with
    | some ((a, b, c, d), rest) => (done ++ [pair a b, pair c d], true, rest)
    | none =>
      match next.bind (number 16 4 true) with
      | some (n, rest) => readGroups room (done ++ [UInt16.ofNat n]) rest
      | none => (done, false, text)

def readV6 (text : List Char) : Option (Vector UInt16 8 × List Char) :=
  let (head, octets, rest) := readGroups 8 [] text
  if h : head.length = 8 then some (⟨head.toArray, by simpa using h⟩, rest)
  else if octets then none
  else do
    let rest ← expect ':' rest >>= expect ':'
    let room := 8 - (head.length + 1)
    let (tail, _, rest) := readGroups room [] rest
    let groups := head ++ List.replicate (8 - head.length - tail.length) 0 ++ tail
    if h : groups.length = 8 then some (⟨groups.toArray, by simpa using h⟩, rest) else none

/-- An address in front of a text, and the rest. -/
def read (text : List Char) : Option (IpAddress × List Char) :=
  match readV4 text with
  | some ((a, b, c, d), rest) => some (.v4 a b c d, rest)
  | none => (readV6 text).map fun (groups, rest) => (.v6 groups, rest)

/-- The address that a text stands for. -/
def ofString? (s : String) : Option IpAddress :=
  match read s.toList with
  | some (ip, []) => some ip
  | _ => none

/-! ## Writing -/

/-- Texts with a separator between them. -/
def joined (separator : String) (items : List String) : String :=
  separator.intercalate items

def hex (groups : List UInt16) : String :=
  joined ":" (groups.map fun g => String.ofList (Hex.ofNat g.toNat))

/-- The start and the length of the first of the longest runs of zeros. -/
def longestRun : List UInt16 → Nat → Nat × Nat → Nat × Nat → Nat × Nat
  | [], _, _, best => best
  | g :: rest, position, current, best =>
    let current := if g = 0 then (if current.2 = 0 then position else current.1, current.2 + 1)
      else (0, 0)
    longestRun rest (position + 1) current (if best.2 < current.2 then current else best)

def v4Text (a b c d : UInt8) : String :=
  joined "." ([a, b, c, d].map fun x => toString x.toNat)

def v6Text (groups : List UInt16) : String :=
  match groups with
  | [0, 0, 0, 0, 0, 0xFFFF, x, y] =>
    "::ffff:" ++ v4Text (UInt8.ofNat (x.toNat / 256)) (UInt8.ofNat (x.toNat % 256))
      (UInt8.ofNat (y.toNat / 256)) (UInt8.ofNat (y.toNat % 256))
  | _ =>
    let (start, length) := longestRun groups 0 (0, 0) (0, 0)
    if length ≤ 1 then hex groups
    else hex (groups.take start) ++ "::" ++ hex (groups.drop (start + length))

/-- The text of an address. -/
def text : IpAddress → String
  | .v4 a b c d => v4Text a b c d
  | .v6 groups => v6Text groups.toList

end IpAddress

/-- An address and a port; an IPv6 address may have a scope. -/
structure SocketAddress where
  ip : IpAddress
  port : UInt16
  scope : Nat := 0
deriving DecidableEq

namespace SocketAddress

/-- The text of a socket address, with an IPv6 address between brackets. -/
def text (a : SocketAddress) : String :=
  let port := toString a.port.toNat
  match a.ip with
  | .v4 .. => a.ip.text ++ ":" ++ port
  | .v6 _ =>
    let scope := if a.scope = 0 then "" else "%" ++ toString a.scope
    "[" ++ a.ip.text ++ scope ++ "]:" ++ port

def readPort (text : List Char) : Option UInt16 := do
  let text ← IpAddress.expect ':' text
  match ← IpAddress.number 10 text.length true text with
  | (n, []) => if n < 65536 then some (UInt16.ofNat n) else none
  | _ => none

def readScope (text : List Char) : Option (Nat × List Char) :=
  match text with
  | '%' :: rest => (IpAddress.number 10 rest.length true rest).filter fun n => n.1 < Width.count32
  | _ => some (0, text)

/-- The socket address that a text stands for. -/
def ofString? (s : String) : Option SocketAddress := do
  match s.toList with
  | '[' :: rest =>
    let (groups, rest) ← IpAddress.readV6 rest
    let (scope, rest) ← readScope rest
    let port ← IpAddress.expect ']' rest >>= readPort
    return ⟨.v6 groups, port, scope⟩
  | text =>
    let ((a, b, c, d), rest) ← IpAddress.readV4 text
    let port ← readPort rest
    return ⟨.v4 a b c d, port, 0⟩

end SocketAddress

end Gatehouse
