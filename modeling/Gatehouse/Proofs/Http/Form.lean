import Gatehouse.Http.Form
import Gatehouse.Proofs.Except
import Gatehouse.Proofs.Bytes.Utf8
import Mathlib.Data.List.Basic

/-!
# Forms read back

There are many ways to write a form : a byte may stand for itself, but for the four that have a
meaning, a space may be a plus, and any byte may be a percent sign with two digits
(`Form.Spells`). However the names and values of a form are written, they are read back
(`Form.pairs_of_writes`), and each form can be written (`Form.writes_encode`). So whatever the
login and the digest of a password are, a request can carry them, and they are found in it
(`Credentials.ofRequest_of_carries`).
-/

namespace Gatehouse

namespace Form

/-! ## Writing -/

/-- Whether a byte stands for itself, of which the four with a meaning are kept out. -/
def isPlain (b : UInt8) : Bool :=
  b != 0x25 && b != 0x2B && b != 0x26 && b != 0x3D

/-- A way to write bytes. -/
inductive Spells : Bytes → Bytes → Prop
  | nil : Spells [] []
  | plain {b : UInt8} {written bytes : Bytes} (h : isPlain b = true) (rest : Spells written bytes) :
      Spells (b :: written) (b :: bytes)
  | space {written bytes : Bytes} (rest : Spells written bytes) :
      Spells (0x2B :: written) (0x20 :: bytes)
  | percent {high low b : UInt8} {written bytes : Bytes} (h : byte? high low = some b)
      (rest : Spells written bytes) : Spells (0x25 :: high :: low :: written) (b :: bytes)

/-- A way to write names and values, in order. -/
inductive Writes : Bytes → List (String × String) → Prop
  | nil : Writes [] []
  | one {n v : Bytes} {name value : String} (hname : Spells n (Utf8.ofString name))
      (hvalue : Spells v (Utf8.ofString value)) : Writes (n ++ 0x3D :: v) [(name, value)]
  | cons {n v body : Bytes} {name value : String} {ps : List (String × String)}
      (hname : Spells n (Utf8.ofString name)) (hvalue : Spells v (Utf8.ofString value))
      (rest : Writes body ps) : Writes ((n ++ 0x3D :: v) ++ 0x26 :: body) ((name, value) :: ps)

/-- A byte as it is written where nothing is known of it. -/
def escape (b : UInt8) : Bytes :=
  if isPlain b then [b]
  else 0x25 :: (Hex.encode [b]).map fun c => UInt8.ofNat c.toNat

def spelling (s : String) : Bytes :=
  (Utf8.ofString s).flatMap escape

/-- Names and values as they are written where nothing is known of them. -/
def encode : List (String × String) → Bytes
  | [] => []
  | [(name, value)] => spelling name ++ 0x3D :: spelling value
  | (name, value) :: ps => (spelling name ++ 0x3D :: spelling value) ++ 0x26 :: encode ps

/-- A byte is read back from its two digits. -/
theorem byte?_digits (b : UInt8) :
    byte? (UInt8.ofNat (Hex.digit (b.toNat / 16)).toNat)
      (UInt8.ofNat (Hex.digit (b.toNat % 16)).toNat) = some b := by
  have hdigit : ∀ n < 16, Char.ofNat (UInt8.ofNat (Hex.digit n).toNat).toNat = Hex.digit n := by
    decide
  have hb := b.toNat_lt
  rw [byte?, hdigit _ (by omega), hdigit _ (by omega), Hex.value?_digit _ (by omega),
    Hex.value?_digit _ (by omega)]
  simp only [Option.bind_eq_bind, Option.bind_some, Option.pure_def]
  rw [show b.toNat / 16 * 16 + b.toNat % 16 = b.toNat by omega, UInt8.ofNat_toNat]

theorem spells_escape : ∀ bytes : Bytes, Spells (bytes.flatMap escape) bytes
  | [] => .nil
  | b :: bytes => by
    rw [List.flatMap_cons, escape]
    split_ifs with h
    · exact .plain h (spells_escape bytes)
    · exact .percent (byte?_digits b) (spells_escape bytes)

/-- What the form writes for its pairs is one of the ways to write them. -/
theorem writes_encode : ∀ ps : List (String × String), Writes (encode ps) ps
  | [] => .nil
  | [_] => .one (spells_escape _) (spells_escape _)
  | _ :: p :: ps => .cons (spells_escape _) (spells_escape _) (writes_encode (p :: ps))

theorem length_spelling (s : String) : (spelling s).length ≤ 3 * (Utf8.ofString s).length := by
  rw [spelling]
  induction Utf8.ofString s with
  | nil => exact Nat.le_refl 0
  | cons b bytes ih =>
    have hb : (escape b).length ≤ 3 := by
      rw [escape]
      split_ifs <;> simp [Hex.encode]
    rw [List.flatMap_cons, List.length_append, List.length_cons]
    omega

/-! ## Reading back -/

/-- The digits of an escape do not separate anything. -/
theorem not_separator_of_value? {b : UInt8} {n : Nat}
    (h : Hex.value? (Char.ofNat b.toNat) = some n) : b ≠ 0x26 ∧ b ≠ 0x3D := by
  constructor <;> rintro rfl <;> cases h

/-- What is written for bytes has no separator in it. -/
theorem Spells.not_mem {written bytes : Bytes} (h : Spells written bytes) :
    0x26 ∉ written ∧ 0x3D ∉ written := by
  induction h with
  | nil => exact ⟨List.not_mem_nil, List.not_mem_nil⟩
  | @plain b _ _ hb _ ih =>
    simp only [isPlain, Bool.and_eq_true, bne_iff_ne] at hb
    exact ⟨List.not_mem_cons_of_ne_of_not_mem (Ne.symm hb.1.2) ih.1,
      List.not_mem_cons_of_ne_of_not_mem (Ne.symm hb.2) ih.2⟩
  | space _ ih => simp [ih.1, ih.2]
  | percent hb _ ih =>
    obtain ⟨high, hhigh, hb⟩ := Option.bind_eq_some_iff.mp hb
    obtain ⟨low, hlow, -⟩ := Option.bind_eq_some_iff.mp hb
    obtain ⟨hhigh26, hhigh3D⟩ := not_separator_of_value? hhigh
    obtain ⟨hlow26, hlow3D⟩ := not_separator_of_value? hlow
    simp [ih.1, ih.2, hhigh26.symm, hhigh3D.symm, hlow26.symm, hlow3D.symm]

theorem decodeFrom_of_ne {b : UInt8} (h : b ≠ 0x25) (bytes read : Bytes) :
    decodeFrom (b :: bytes) read = decodeFrom bytes ((if b = 0x2B then 0x20 else b) :: read) := by
  conv_lhs => unfold decodeFrom
  exact if_neg h

/-- What spells bytes is read as them. -/
theorem decodeFrom_of_spells {written bytes : Bytes} (h : Spells written bytes) (read : Bytes) :
    decodeFrom written read = read.reverse ++ bytes := by
  induction h generalizing read with
  | nil => rw [decodeFrom, List.append_nil]
  | @plain b _ _ hb _ ih =>
    simp only [isPlain, Bool.and_eq_true, bne_iff_ne] at hb
    rw [decodeFrom_of_ne hb.1.1.1, if_neg hb.1.1.2, ih, List.reverse_cons, List.append_assoc,
      List.singleton_append]
  | space _ ih =>
    rw [decodeFrom_of_ne (by decide), if_pos rfl, ih, List.reverse_cons, List.append_assoc,
      List.singleton_append]
  | percent hb _ ih =>
    rw [decodeFrom, if_pos rfl]
    simp only [hb]
    rw [ih, List.reverse_cons, List.append_assoc, List.singleton_append]

/-- A text is read back from what is written for its bytes. -/
theorem text_of_spells {written : Bytes} {s : String} (h : Spells written (Utf8.ofString s)) :
    text written = s := by
  rw [text, decodeFrom_of_spells h, List.reverse_nil, List.nil_append, Utf8.ofString,
    Utf8.decodeLossy_encode, String.ofList_toList]

/-- A name and a value are divided at the first equality sign, and read. -/
theorem pair_of_spells {n v : Bytes} {name value : String} (hname : Spells n (Utf8.ofString name))
    (hvalue : Spells v (Utf8.ofString value)) : pair (n ++ 0x3D :: v) = (name, value) := by
  have hn : ∀ b ∈ n, (b != 0x3D) = true := fun b hb => by
    rw [bne_iff_ne]
    rintro rfl
    exact hname.not_mem.2 hb
  rw [pair, List.takeWhile_append_of_pos hn, List.dropWhile_append_of_pos hn]
  simp [text_of_spells hname, text_of_spells hvalue]

/-- A piece ends at the next separator, and the pieces before it are kept. -/
theorem piecesFrom_append {separator : UInt8} : ∀ {piece : Bytes}, separator ∉ piece →
    ∀ (bytes read : Bytes) (done : List Bytes), piecesFrom separator (piece ++ bytes) read done =
      piecesFrom separator bytes (piece.reverse ++ read) done
  | [], _, _, _, _ => rfl
  | b :: piece, h, bytes, read, done => by
    rw [List.cons_append, piecesFrom, if_neg (List.ne_of_not_mem_cons h).symm,
      piecesFrom_append (List.not_mem_of_not_mem_cons h),
      List.reverse_cons, List.append_assoc, List.singleton_append]

theorem piecesFrom_done {separator : UInt8} : ∀ (bytes read : Bytes) (done : List Bytes),
    piecesFrom separator bytes read done = done.reverse ++ piecesFrom separator bytes read []
  | [], read, done => by simp [piecesFrom]
  | b :: bytes, read, done => by
    rw [piecesFrom, piecesFrom]
    split_ifs
    · rw [piecesFrom_done bytes [] (read.reverse :: done), piecesFrom_done bytes [] [read.reverse],
        List.reverse_cons, List.append_assoc, List.reverse_singleton]
    · exact piecesFrom_done bytes _ done

/-- Names and values are read back, however they are written. -/
theorem pairs_of_writes {body : Bytes} {ps : List (String × String)} (h : Writes body ps) :
    pairs body = ps := by
  have hpiece : ∀ {n v : Bytes} {name value : String}, Spells n (Utf8.ofString name) →
      Spells v (Utf8.ofString value) → 0x26 ∉ n ++ 0x3D :: v := fun hname hvalue => by
    simp [hname.not_mem.1, hvalue.not_mem.1]
  induction h with
  | nil => rfl
  | @one n v name value hname hvalue =>
    have hpieces := piecesFrom_append (hpiece hname hvalue) [] [] []
    rw [List.append_nil] at hpieces
    rw [pairs, hpieces]
    simp [piecesFrom, pair_of_spells hname hvalue]
  | @cons n v body name value ps hname hvalue _ ih =>
    rw [pairs, piecesFrom_append (hpiece hname hvalue), piecesFrom, if_pos rfl, piecesFrom_done]
    rw [pairs] at ih
    simp [pair_of_spells hname hvalue, ih]

/-! ## Requests -/

/-- A request carries a form of names and values. -/
structure Carries (r : Request) (ps : List (String × String)) : Prop where
  type : ∃ t, r.headers.text? "Content-Type" = some t ∧ contentType.isPrefixOf t = true
  length : r.body.length ≤ maxBytes
  body : Writes r.body ps

theorem ofRequest_of_carries {r : Request} {ps : List (String × String)} (h : Carries r ps) :
    ofRequest r = .ok ps := by
  obtain ⟨t, ht, hform⟩ := h.type
  rw [ofRequest, ht]
  simp only [hform, Bool.not_true, Bool.false_eq_true, if_false]
  rw [if_neg (Nat.not_lt.mpr h.length), pairs_of_writes h.body]

end Form

/-- Credentials are found in the names and values that a request carries. -/
theorem Credentials.ofRequest_of_carries {r : Request} {ps : List (String × String)}
    (h : Form.Carries r ps) : ofRequest r = collect none none ps := by
  rw [ofRequest, Form.ofRequest_of_carries h]
  rfl

end Gatehouse
