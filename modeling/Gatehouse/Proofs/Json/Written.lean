import Gatehouse.Proofs.Json.Lexeme
import Gatehouse.Proofs.Number.Word

/-!
# Written values read back

`Node.read?` finds in the compact text of a value the tree `Value.node` of that value, member
by member and in the order of writing (`read?_written`). What that tree stands for is the value
again, with the members of its objects put in order and each key once (`ofNode_node`), as long
as the value holds no doubles, no whole numbers past 64 bits and no containers nested too
deeply (`Value.Fits`).

The reader spends fuel, one for each value, element and member. A text never needs more of it
than it has bytes, and this is what the induction carries.
-/

namespace Gatehouse.Json

open Reader (Delimited)

/-! ## Trees of values -/

mutual

/-- The tree of the compact text of a value without doubles. -/
def Value.node : Value → Node
  | .null | .float _ => .null
  | .bool b => .bool b
  | .int n => .number (Numeral.ofInt n)
  | .string s => .string (Piece.ofText s.toList)
  | .array xs => .array (itemNodes xs)
  | .object ms => .object (memberNodes ms)

def Value.itemNodes : List Value → List Node
  | [] => []
  | x :: rest => x.node :: itemNodes rest

def Value.memberNodes : List (String × Value) → List (List Piece × Node)
  | [] => []
  | (k, x) :: rest => (Piece.ofText k.toList, x.node) :: memberNodes rest

end

mutual

/-- A value that its text keeps : without doubles, with whole numbers of 64 bits, with or
without a sign, and with containers to a depth below `depth`. -/
def Value.Fits (depth : Nat) : Value → Prop
  | .null | .bool _ | .string _ => True
  | .float _ => False
  | .int n => Width.minSigned ≤ n ∧ n ≤ Width.maxUnsigned
  | .array xs => 1 < depth ∧ ItemsFit (depth - 1) xs
  | .object ms => 1 < depth ∧ MembersFit (depth - 1) ms

def Value.ItemsFit (depth : Nat) : List Value → Prop
  | [] => True
  | x :: rest => x.Fits depth ∧ ItemsFit depth rest

def Value.MembersFit (depth : Nat) : List (String × Value) → Prop
  | [] => True
  | (_, x) :: rest => x.Fits depth ∧ MembersFit depth rest

end

theorem Value.fits_int {depth : Nat} {n : Int} (h : Width.fitsSigned n = true) :
    (Value.int n).Fits depth := by
  obtain ⟨hlow, hhigh⟩ := Width.fitsSigned_iff.mp h
  rw [Value.Fits]
  exact ⟨hlow, Int.le_trans hhigh (by decide)⟩

theorem Value.fits_string {depth : Nat} (s : String) : (Value.string s).Fits depth := by
  rw [Value.Fits]
  trivial

theorem Value.fits_bool {depth : Nat} (b : Bool) : (Value.bool b).Fits depth := by
  rw [Value.Fits]
  trivial

theorem Value.fits_object {depth : Nat} {ms : List (String × Value)} :
    (Value.object ms).Fits depth ↔ 1 < depth ∧ MembersFit (depth - 1) ms := by
  rw [Value.Fits]

theorem Value.membersFit_nil (depth : Nat) : MembersFit depth [] := by
  rw [MembersFit]
  trivial

theorem Value.membersFit_cons {depth : Nat} {k : String} {x : Value}
    {ms : List (String × Value)} :
    MembersFit depth ((k, x) :: ms) ↔ x.Fits depth ∧ MembersFit depth ms := by
  rw [MembersFit]

theorem Value.itemsFit_cons {depth : Nat} {x : Value} {xs : List Value} :
    ItemsFit depth (x :: xs) ↔ x.Fits depth ∧ ItemsFit depth xs := by
  rw [ItemsFit]

theorem Value.memberNodes_eq_map : ∀ ms : List (String × Value),
    memberNodes ms = ms.map fun m => (Piece.ofText m.1.toList, m.2.node)
  | [] => rfl
  | (k, x) :: ms => by rw [memberNodes, memberNodes_eq_map ms, List.map_cons]

mutual

/-- The value with the members of its objects in order and each key once. -/
def Value.sorted : Value → Value
  | .array xs => .array (sortedItems xs)
  | .object ms => .object (sortedMembers ms [])
  | .null => .null
  | .bool b => .bool b
  | .int n => .int n
  | .float x => .float x
  | .string s => .string s

def Value.sortedItems : List Value → List Value
  | [] => []
  | x :: rest => x.sorted :: sortedItems rest

/-- The members, put into those in front of them. -/
def Value.sortedMembers : List (String × Value) → List (String × Value) → List (String × Value)
  | [], done => done
  | (k, x) :: rest, done => sortedMembers rest (insert k x.sorted done)

end

/-! ## What trees stand for -/

mutual

/-- What the nodes of a value say is the value, with its members sorted. -/
theorem ofNode_node : ∀ (depth : Nat) (v : Value), v.Fits depth →
    Value.ofNode depth v.node = some v.sorted
  | _, .null, _ => rfl
  | _, .bool _, _ => rfl
  | _, .float _, h => absurd h (by simp [Value.Fits])
  | _, .int n, h => by
    simp only [Value.Fits] at h
    simp only [Value.node, Value.ofNode, Value.sorted, value?_ofInt h.1 h.2]
  | _, .string s, _ => by
    simp only [Value.node, Value.ofNode, Value.sorted, text?_ofText, Option.map_some]
  | depth, .array xs, h => by
    simp only [Value.Fits] at h
    simp only [Value.node, Value.ofNode, Value.sorted, ofItems_itemNodes _ xs h.2,
      if_neg (show ¬depth ≤ 1 by omega), Option.map_some]
  | depth, .object ms, h => by
    rw [Value.fits_object] at h
    simp only [Value.node, Value.ofNode, Value.sorted, ofMembers_memberNodes _ ms [] h.2,
      if_neg (show ¬depth ≤ 1 by omega), Option.map_some]

theorem ofItems_itemNodes : ∀ (depth : Nat) (xs : List Value), Value.ItemsFit depth xs →
    Value.ofItems depth (Value.itemNodes xs) = some (Value.sortedItems xs)
  | _, [], _ => rfl
  | depth, x :: rest, h => by
    rw [Value.itemsFit_cons] at h
    simp only [Value.itemNodes, Value.ofItems, Value.sortedItems, ofNode_node depth x h.1,
      ofItems_itemNodes depth rest h.2]

theorem ofMembers_memberNodes : ∀ (depth : Nat) (ms done : List (String × Value)),
    Value.MembersFit depth ms →
    Value.ofMembers depth (Value.memberNodes ms) done = some (Value.sortedMembers ms done)
  | _, [], _, _ => rfl
  | depth, (k, x) :: rest, done, h => by
    rw [Value.membersFit_cons] at h
    simp only [Value.memberNodes, Value.ofMembers, Value.sortedMembers, text?_ofText,
      ofNode_node depth x h.1, ofMembers_memberNodes depth rest _ h.2]

end

/-! ## Reading the text -/

namespace Reader

theorem skip_cons {b : UInt8} (h : isBlank b = false) (bytes : Bytes) :
    skip (b :: bytes) = b :: bytes := by
  rw [skip, List.dropWhile_cons_of_neg (by simp [h])]

/-- The first byte of a written number is a minus sign or a digit. -/
theorem encode_int_eq_cons (n : Int) :
    ∃ b tail, Utf8.encode (Notation.int n) = b :: tail ∧ (b = 0x2D ∨ isDigit b = true) := by
  by_cases hn : n < 0
  · refine ⟨0x2D, Utf8.encode (Nat.toDigits 10 n.natAbs), ?_, Or.inl rfl⟩
    rw [Notation.int, Notation.sign, decide_eq_true hn, if_pos rfl, Utf8.encode_append]
    rfl
  · obtain ⟨b, tail, heq, hb⟩ := encode_toDigits_eq_cons n.natAbs
    refine ⟨b, tail, ?_, Or.inr hb⟩
    rw [Notation.int, Notation.sign, decide_eq_false hn]
    exact heq

theorem bounds_of_isDigit {b : UInt8} (h : isDigit b = true) : 0x30 ≤ b.toNat ∧ b.toNat ≤ 0x39 := by
  simp only [isDigit, Bool.and_eq_true, decide_eq_true_eq, UInt8.le_iff_toNat_le] at h
  exact h

/-- A byte that begins a number begins nothing else. -/
theorem head_of_number {b : UInt8} (h : b = 0x2D ∨ isDigit b = true) :
    isBlank b = false ∧ b ≠ 0x22 ∧ b ≠ 0x7B ∧ b ≠ 0x5B ∧ b ≠ 0x5D ∧ b ≠ 0x6E ∧ b ≠ 0x74 ∧
      b ≠ 0x66 := by
  rcases h with rfl | h
  · decide
  · have hb := bounds_of_isDigit h
    have hne : ∀ c : UInt8, c.toNat < 0x30 ∨ 0x39 < c.toNat → b ≠ c := by
      rintro c hc rfl
      omega
    refine ⟨?_, hne _ (by decide), hne _ (by decide), hne _ (by decide), hne _ (by decide),
      hne _ (by decide), hne _ (by decide), hne _ (by decide)⟩
    simp [isBlank, hne 0x20 (by decide), hne 0x09 (by decide), hne 0x0A (by decide),
      hne 0x0D (by decide)]

/-- A written value begins with no blank and closes no array. -/
theorem encode_value_eq_cons {depth : Nat} : ∀ {v : Value}, v.Fits depth →
    ∃ b tail, Utf8.encode (Printer.value v) = b :: tail ∧ isBlank b = false ∧ b ≠ 0x5D
  | .null, _ => ⟨_, _, rfl, by decide, by decide⟩
  | .bool true, _ => ⟨_, _, rfl, by decide, by decide⟩
  | .bool false, _ => ⟨_, _, rfl, by decide, by decide⟩
  | .float _, h => absurd h (by simp [Value.Fits])
  | .int n, _ => by
    obtain ⟨b, tail, heq, hb⟩ := encode_int_eq_cons n
    have hhead := head_of_number hb
    exact ⟨b, tail, heq, hhead.1, hhead.2.2.2.2.1⟩
  | .string _, _ => ⟨_, _, rfl, by decide, by decide⟩
  | .array _, _ => ⟨_, _, rfl, by decide, by decide⟩
  | .object _, _ => ⟨_, _, rfl, by decide, by decide⟩

/-- The digits of a number are read back in front of what may follow a value. -/
theorem value_int (n : Int) (fuel : Nat) {bytes : Bytes} (h : Delimited bytes) :
    value (fuel + 1) (Utf8.encode (Notation.int n) ++ bytes) =
      some (.number (Numeral.ofInt n), bytes) := by
  have hnumeral := numeral_written n h
  obtain ⟨b, tail, heq, hb⟩ := encode_int_eq_cons n
  obtain ⟨-, h1, h2, h3, -, h4, h5, h6⟩ := head_of_number hb
  rw [heq, List.cons_append] at hnumeral ⊢
  simp only [value, beq_iff_eq, h1, h2, h3, h4, h5, h6, if_false, hnumeral, Option.map_some]

/-- A string in its place, between quotes. -/
theorem string_quoted (s : String) (bytes : Bytes) :
    ∃ tail, Utf8.encode (Printer.string s) ++ bytes = 0x22 :: tail ∧
      string tail [] = some (Piece.ofText s.toList, bytes) := by
  refine ⟨Utf8.encode (s.toList.flatMap Printer.escape) ++ 0x22 :: bytes, ?_, ?_⟩
  · rw [Printer.string, Utf8.encode_append, Utf8.encode_cons, List.append_assoc, List.append_assoc]
    rfl
  · rw [string_written, List.reverse_nil, List.nil_append]

/-- A string is read back in front of anything. -/
theorem value_string (s : String) (fuel : Nat) (bytes : Bytes) :
    value (fuel + 1) (Utf8.encode (Printer.string s) ++ bytes) =
      some (.string (Piece.ofText s.toList), bytes) := by
  obtain ⟨tail, heq, hstring⟩ := string_quoted s bytes
  rw [heq]
  simp [value, hstring]

theorem value_literal (fuel : Nat) (bytes : Bytes) :
    value (fuel + 1) (Utf8.encode (Printer.value .null) ++ bytes) = some (.null, bytes) ∧
      ∀ b, value (fuel + 1) (Utf8.encode (Printer.value (.bool b)) ++ bytes) =
        some (.bool b, bytes) := by
  refine ⟨rfl, fun b => ?_⟩
  cases b <;> rfl

/-! ### Elements and members -/

/-- The reader takes an element and goes by the byte behind it. -/
theorem items_step {fuel : Nat} {v : Value} {depth : Nat} (hv : v.Fits depth) {b : UInt8}
    (hb : isBlank b = false) {bytes : Bytes}
    (h : value fuel (Utf8.encode (Printer.value v) ++ b :: bytes) = some (v.node, b :: bytes))
    (done : List Node) :
    items (fuel + 1) (Utf8.encode (Printer.value v) ++ b :: bytes) done =
      if b == 0x2C then items fuel bytes (v.node :: done)
      else if b == 0x5D then some (.array (v.node :: done).reverse, bytes)
      else none := by
  obtain ⟨c, tail, heq, hc, -⟩ := encode_value_eq_cons hv
  rw [heq, List.cons_append] at h ⊢
  simp only [items, skip_cons hc, h, skip_cons hb]

/-- The reader takes the key and the value of a member and goes by the byte behind it. -/
theorem members_step {fuel : Nat} {k : String} {v : Value} {depth : Nat} (hv : v.Fits depth)
    {b : UInt8} (hb : isBlank b = false) {bytes : Bytes}
    (h : value fuel (Utf8.encode (Printer.value v) ++ b :: bytes) = some (v.node, b :: bytes))
    (done : List (List Piece × Node)) :
    members (fuel + 1) (Utf8.encode (Printer.string k ++ ':' :: Printer.value v) ++ b :: bytes)
        done =
      if b == 0x2C then members fuel bytes ((Piece.ofText k.toList, v.node) :: done)
      else if b == 0x7D then
        some (.object ((Piece.ofText k.toList, v.node) :: done).reverse, bytes)
      else none := by
  obtain ⟨c, tail, heq, hc, -⟩ := encode_value_eq_cons hv
  have hcolon : Utf8.encode (':' :: Printer.value v) ++ b :: bytes =
      0x3A :: (Utf8.encode (Printer.value v) ++ b :: bytes) := rfl
  obtain ⟨rest, hkey, hstring⟩ :=
    string_quoted k (Utf8.encode (':' :: Printer.value v) ++ b :: bytes)
  rw [Utf8.encode_append, List.append_assoc, hkey]
  rw [hcolon] at hstring
  rw [heq, List.cons_append] at h hstring
  simp only [members, skip_cons (show isBlank 0x22 = false from rfl), bne_self_eq_false,
    Bool.false_eq_true, if_false, hstring, skip_cons (show isBlank 0x3A = false from rfl),
    skip_cons hc, h, skip_cons hb]

end Reader

/-- What is written of an element or a member and of those behind it. -/
theorem Printer.encode_commas (x y : List Char) (rest : List (List Char)) (bytes : Bytes) :
    Utf8.encode (commas (x :: y :: rest)) ++ bytes =
      Utf8.encode x ++ 0x2C :: (Utf8.encode (commas (y :: rest)) ++ bytes) := by
  rw [commas, Utf8.encode_append, List.append_assoc]
  · rfl
  · exact List.cons_ne_nil y rest

theorem Printer.length_encode_commas (x y : List Char) (rest : List (List Char)) :
    (Utf8.encode (commas (x :: y :: rest))).length =
      (Utf8.encode x).length + (Utf8.encode (commas (y :: rest))).length + 1 := by
  have h := congrArg List.length (encode_commas x y rest [])
  simp only [List.append_nil, List.length_append, List.length_cons] at h
  omega

/-- Items begin with a byte that is no blank and closes nothing. -/
theorem encode_items_eq_cons {depth : Nat} {x : Value} (hx : x.Fits depth) (xs : List Value) :
    ∃ b tail, Utf8.encode (Printer.commas (Printer.items (x :: xs))) = b :: tail ∧
      Reader.isBlank b = false ∧ b ≠ 0x5D := by
  obtain ⟨b, tail, heq, hb⟩ := Reader.encode_value_eq_cons hx
  cases xs with
  | nil => exact ⟨b, tail, heq, hb⟩
  | cons y xs =>
    have h := Printer.encode_commas (Printer.value x) (Printer.value y) (Printer.items xs) []
    rw [List.append_nil, heq] at h
    exact ⟨b, _, h, hb⟩

theorem encode_members_eq_cons (k : String) (x : Value) (ms : List (String × Value)) :
    ∃ tail, Utf8.encode (Printer.commas (Printer.members ((k, x) :: ms))) = 0x22 :: tail := by
  rcases ms with _ | ⟨⟨l, y⟩, ms⟩
  · exact ⟨_, rfl⟩
  · exact ⟨_, rfl⟩

open Reader Printer in
mutual

/-- A value is read back from what the printer makes of it, in front of what may follow a value. -/
theorem value_written : ∀ (depth : Nat) (v : Value), v.Fits depth → ∀ (fuel : Nat) (bytes : Bytes),
    (Utf8.encode (Printer.value v)).length ≤ fuel → Delimited bytes →
    Reader.value fuel (Utf8.encode (Printer.value v) ++ bytes) = some (v.node, bytes)
  | _, v, hv, 0, _, hlen, _ => by
    obtain ⟨b, tail, heq, -⟩ := encode_value_eq_cons hv
    simp [heq] at hlen
  | _, .null, _, fuel + 1, bytes, _, _ => (value_literal fuel bytes).1
  | _, .bool b, _, fuel + 1, bytes, _, _ => (value_literal fuel bytes).2 b
  | _, .float _, hv, _ + 1, _, _, _ => absurd hv (by simp [Value.Fits])
  | _, .int n, _, fuel + 1, _, _, hb => value_int n fuel hb
  | _, .string s, _, fuel + 1, bytes, _, _ => value_string s fuel bytes
  | _, .array [], _, _ + 1, _, _, _ => rfl
  | depth, .array (x :: xs), hv, fuel + 1, bytes, hlen, _ => by
    rw [Value.Fits] at hv
    have hx : x.Fits (depth - 1) := (Value.itemsFit_cons.mp hv.2).1
    have htext : Utf8.encode (Printer.value (.array (x :: xs))) ++ bytes =
        0x5B :: (Utf8.encode (commas (Printer.items (x :: xs))) ++ 0x5D :: bytes) := by
      rw [Printer.value, List.cons_append, Utf8.encode_cons, Utf8.encode_append]
      simp only [List.append_assoc]
      rfl
    have hxs := items_written (depth - 1) x xs hv.2 fuel bytes [] (by
      have h := congrArg List.length htext
      simp only [List.length_append, List.length_cons] at h
      omega)
    obtain ⟨b, tail, heq, hb, hclose⟩ := encode_items_eq_cons hx xs
    rw [htext]
    rw [heq, List.cons_append] at hxs ⊢
    simp only [Reader.value, skip_cons hb, beq_iff_eq, hclose, if_false, hxs]
    rfl
  | _, .object [], _, _ + 1, _, _, _ => rfl
  | depth, .object ((k, x) :: ms), hv, fuel + 1, bytes, hlen, _ => by
    rw [Value.fits_object] at hv
    have htext : Utf8.encode (Printer.value (.object ((k, x) :: ms))) ++ bytes =
        0x7B :: (Utf8.encode (commas (Printer.members ((k, x) :: ms))) ++ 0x7D :: bytes) := by
      rw [Printer.value, List.cons_append, Utf8.encode_cons, Utf8.encode_append]
      simp only [List.append_assoc]
      rfl
    have hms := members_written (depth - 1) k x ms hv.2 fuel bytes [] (by
      have h := congrArg List.length htext
      simp only [List.length_append, List.length_cons] at h
      omega)
    obtain ⟨tail, heq⟩ := encode_members_eq_cons k x ms
    rw [htext]
    rw [heq, List.cons_append] at hms ⊢
    simp only [Reader.value, skip_cons (show isBlank 0x22 = false from rfl), hms]
    rfl

/-- Items are read back up to the bracket that closes them. -/
theorem items_written : ∀ (depth : Nat) (x : Value) (xs : List Value),
    Value.ItemsFit depth (x :: xs) → ∀ (fuel : Nat) (bytes : Bytes) (done : List Node),
    (Utf8.encode (commas (Printer.items (x :: xs)))).length < fuel →
    Reader.items fuel (Utf8.encode (commas (Printer.items (x :: xs))) ++ 0x5D :: bytes) done =
      some (.array (done.reverse ++ Value.itemNodes (x :: xs)), bytes)
  | _, _, _, _, 0, _, _, hlen => absurd hlen (Nat.not_lt_zero _)
  | depth, x, [], h, fuel + 1, bytes, done, hlen => by
    rw [Value.itemsFit_cons] at h
    have hx := value_written depth x h.1 fuel (0x5D :: bytes) (Nat.le_of_lt_succ hlen)
      (Or.inr (Or.inl rfl))
    refine (items_step h.1 rfl hx done).trans ?_
    simp [Value.itemNodes]
  | depth, x, y :: xs, h, fuel + 1, bytes, done, hlen => by
    have hfit : x.Fits depth ∧ Value.ItemsFit depth (y :: xs) := Value.itemsFit_cons.mp h
    rw [Printer.items, Printer.items, length_encode_commas, ← Printer.items] at hlen
    have hx := value_written depth x hfit.1 fuel
      (0x2C :: (Utf8.encode (commas (Printer.items (y :: xs))) ++ 0x5D :: bytes))
      (by omega) (Or.inl rfl)
    have hxs := items_written depth y xs hfit.2 fuel bytes (x.node :: done) (by omega)
    rw [Printer.items, Printer.items, encode_commas, ← Printer.items,
      items_step hfit.1 rfl hx, beq_self_eq_true, if_pos rfl, hxs, List.reverse_cons,
      List.append_assoc]
    rfl

/-- Members are read back up to the brace that closes them. -/
theorem members_written : ∀ (depth : Nat) (k : String) (x : Value) (ms : List (String × Value)),
    Value.MembersFit depth ((k, x) :: ms) → ∀ (fuel : Nat) (bytes : Bytes)
    (done : List (List Piece × Node)),
    (Utf8.encode (commas (Printer.members ((k, x) :: ms)))).length < fuel →
    Reader.members fuel (Utf8.encode (commas (Printer.members ((k, x) :: ms))) ++ 0x7D :: bytes)
        done = some (.object (done.reverse ++ Value.memberNodes ((k, x) :: ms)), bytes)
  | _, _, _, _, _, 0, _, _, hlen => absurd hlen (Nat.not_lt_zero _)
  | depth, k, x, [], h, fuel + 1, bytes, done, hlen => by
    rw [Value.membersFit_cons] at h
    have hlen' : (Utf8.encode (Printer.string k ++ ':' :: Printer.value x)).length < fuel + 1 :=
      hlen
    rw [Utf8.encode_append, Utf8.encode_cons, List.length_append, List.length_append] at hlen'
    have hx := value_written depth x h.1 fuel (0x7D :: bytes) (by omega) (Or.inr (Or.inr rfl))
    refine (members_step h.1 rfl hx done).trans ?_
    simp [Value.memberNodes]
  | depth, k, x, (l, y) :: ms, h, fuel + 1, bytes, done, hlen => by
    have hfit : x.Fits depth ∧ Value.MembersFit depth ((l, y) :: ms) :=
      Value.membersFit_cons.mp h
    rw [Printer.members, Printer.members, length_encode_commas, ← Printer.members,
      Utf8.encode_append, Utf8.encode_cons, List.length_append, List.length_append] at hlen
    have hx := value_written depth x hfit.1 fuel
      (0x2C :: (Utf8.encode (commas (Printer.members ((l, y) :: ms))) ++ 0x7D :: bytes))
      (by omega) (Or.inl rfl)
    have hms := members_written depth l y ms hfit.2 fuel bytes
      ((Piece.ofText k.toList, x.node) :: done) (by omega)
    rw [Printer.members, Printer.members, encode_commas, ← Printer.members,
      members_step hfit.1 rfl hx, beq_self_eq_true, if_pos rfl, hms, List.reverse_cons,
      List.append_assoc]
    rfl

end

/-- The text of a value is the text of its tree. -/
theorem read?_written {depth : Nat} {v : Value} (hv : v.Fits depth) :
    Node.read? (Utf8.encode (Printer.value v)) = some v.node := by
  have h := value_written depth v hv (2 * (Utf8.encode (Printer.value v)).length + 2) []
    (by omega) trivial
  obtain ⟨b, tail, heq, hb, -⟩ := Reader.encode_value_eq_cons hv
  rw [List.append_nil] at h
  rw [Node.read?, heq, Reader.skip_cons hb, ← heq, h]
  rfl

end Gatehouse.Json
