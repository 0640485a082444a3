import Gatehouse.Proofs.Token.Order

/-!
# The written form of claims

Claims are read from a value that lists what their fields have to hold, whether it is an object or
an array (`Claims.ofJson_of_lists`, `Claims.exists_lists`). Members of other keys do not count, and
a beginning that is null is as good as none. What is read are claims of whole seconds in range;
these are written as an object, and read from it, and from its text, as they were (`Claims.isKept`).
So of all values that are read as the same claims one is their written form, and no other claims
have its text (`Claims.wireForm`).
-/

namespace Gatehouse

open Json (Value lookup)
open Json.Decode

namespace Json.Decode

variable {key : String} {ms : List (String × Value)}

theorem int_field_eq_ok_iff {n : Int} : int (field key ms) = .ok n ↔
    lookup key ms = some (.int n) ∧ Width.fitsSigned n = true := by
  rw [int_eq_ok_iff, field_eq_iff (x := .int n) nofun]

theorem string_field_eq_ok_iff {s : String} :
    string (field key ms) = .ok s ↔ lookup key ms = some (.string s) := by
  rw [← field_eq_iff (x := .string s) nofun]
  cases field key ms <;> simp [string]

theorem bool_field_eq_ok_iff {b : Bool} :
    Json.Decode.bool (field key ms) = .ok b ↔ lookup key ms = some (.bool b) := by
  rw [← field_eq_iff (x := .bool b) nofun]
  cases field key ms <;> simp [Json.Decode.bool]

end Json.Decode

/-! ## Users -/

namespace User

variable {u : User} {v : Value} {ms : List (String × Value)}

/-- Members hold the fields of a user. -/
structure IsIn (u : User) (ms : List (String × Value)) : Prop where
  id : lookup "user_id" ms = some (.int u.id)
  name : lookup "user_name" ms = some (.string u.name)
  email : lookup "user_email" ms = some (.string u.email)
  login : lookup "user_login" ms = some (.string u.login)
  isAdmin : lookup "is_admin" ms = some (.bool u.isAdmin)
  fits : Width.fitsSigned u.id = true

/-- A user is in members exactly if each of its parts is read of them. -/
theorem isIn_iff : u.IsIn ms ↔ int (field "user_id" ms) = .ok u.id ∧
    string (field "user_name" ms) = .ok u.name ∧ string (field "user_email" ms) = .ok u.email ∧
      string (field "user_login" ms) = .ok u.login ∧
        Json.Decode.bool (field "is_admin" ms) = .ok u.isAdmin := by
  simp only [int_field_eq_ok_iff, string_field_eq_ok_iff, bool_field_eq_ok_iff]
  constructor
  · intro h
    exact ⟨⟨h.id, h.fits⟩, h.name, h.email, h.login, h.isAdmin⟩
  · rintro ⟨⟨hid, hfits⟩, hname, hemail, hlogin, hadmin⟩
    exact ⟨hid, hname, hemail, hlogin, hadmin, hfits⟩

theorem ofJson_eq_ok_iff : ofJson v = .ok u ↔
    ∃ ms, fields "UserIdentity" shape v = .ok ms ∧ u.IsIn ms := by
  rw [ofJson, bind_eq_ok_iff]
  refine exists_congr fun ms => and_congr_right fun _ => ?_
  rw [isIn_iff]
  constructor
  · intro h
    obtain ⟨id, hid, h⟩ := bind_eq_ok_iff.mp h
    obtain ⟨name, hname, h⟩ := bind_eq_ok_iff.mp h
    obtain ⟨email, hemail, h⟩ := bind_eq_ok_iff.mp h
    obtain ⟨login, hlogin, h⟩ := bind_eq_ok_iff.mp h
    obtain ⟨isAdmin, hadmin, h⟩ := bind_eq_ok_iff.mp h
    obtain rfl := Except.ok.inj h
    exact ⟨hid, hname, hemail, hlogin, hadmin⟩
  · rintro ⟨hid, hname, hemail, hlogin, hadmin⟩
    rw [hid, hname, hemail, hlogin, hadmin]
    rfl

theorem exists_lists (h : ofJson v = .ok u) : ∃ ms, Lists shape v ms ∧ u.IsIn ms := by
  obtain ⟨ms, hms, hu⟩ := ofJson_eq_ok_iff.mp h
  exact ⟨ms, lists_of_fields (by decide) hms, hu⟩

/-- A user is read of whatever lists its members. -/
theorem ofJson_of_lists (h : Lists shape v ms) (hms : (ms.map Prod.fst).Nodup) (hu : u.IsIn ms) :
    ofJson v = .ok u := by
  obtain ⟨hid, hname, hemail, hlogin, hadmin⟩ := isIn_iff.mp hu
  refine ofJson_eq_ok_iff.mpr ⟨ms, fields_of_lists (by decide) (by decide) h hms ?_, hu⟩
  simp only [shape, List.forall_mem_cons]
  refine ⟨holds_of_read hid ?_, holds_of_read hname ?_, holds_of_read hemail ?_,
    holds_of_read hlogin ?_, holds_of_read hadmin ?_, List.forall_mem_nil _⟩
  -- All fields are required, and none of them is read of null.
  all_goals rintro - a ⟨⟩

theorem ofJson_toJson (h : Width.fitsSigned u.id = true) : ofJson u.toJson = .ok u := by
  refine ofJson_of_lists (.object _) (by simp) ⟨?_, ?_, ?_, ?_, ?_, h⟩ <;> simp [Json.lookup_cons]

end User

/-! ## Claims -/

namespace Claims

variable {c : Claims} {v : Value} {ms : List (String × Value)}

/-- Members hold the fields of claims. A beginning that is absent may be given as null. -/
structure IsIn (c : Claims) (ms : List (String × Value)) : Prop where
  tokenId : lookup "jti" ms = some (.string c.tokenId)
  issuer : lookup "iss" ms = some (.string c.issuer)
  issuedAt : lookup "iat" ms = some (.int c.issuedAt.seconds)
  notBefore : field "nbf" ms = (c.notBefore.map fun t => Value.int t.seconds).getD .null
  expiresAt : lookup "exp" ms = some (.int c.expiresAt.seconds)
  user : ∃ u, lookup "User" ms = some u ∧ User.ofJson u = .ok c.user
  inRange : c.InRange
  floor : c.floor = c

theorem timestamp_field_eq_ok_iff {key : String} {t : Instant} : timestamp (field key ms) = .ok t ↔
    lookup key ms = some (.int t.seconds) ∧ Instant.inRange t.seconds = true ∧ t.floor = t := by
  rw [timestamp_eq_ok_iff, field_eq_iff (x := .int t.seconds) nofun]

/-- A time that may be absent is read of its seconds or of null, and of nothing else. -/
theorem optional_timestamp_iff {o : Option Instant} :
    Json.Decode.optional timestamp v = .ok o ↔
      v = (o.map fun t => Value.int t.seconds).getD .null ∧
        ∀ t ∈ o, Instant.inRange t.seconds = true ∧ t.floor = t := by
  rw [optional_timestamp_eq_ok_iff]
  cases o with
  | none => simp
  | some t => simp [timestamp_eq_ok_iff]

/-- Claims have no fractions exactly if none of their times has. -/
theorem floor_eq_iff : c.floor = c ↔ c.issuedAt.floor = c.issuedAt ∧
    c.notBefore.map Instant.floor = c.notBefore ∧ c.expiresAt.floor = c.expiresAt := by
  constructor
  · intro h
    exact ⟨congrArg Claims.issuedAt h, congrArg Claims.notBefore h, congrArg Claims.expiresAt h⟩
  · rintro ⟨hissued, hbegin, hexpires⟩
    rw [floor, hissued, hbegin, hexpires]

/-- Claims are in members exactly if each of their parts is read of them. -/
theorem isIn_iff : c.IsIn ms ↔ string (field "jti" ms) = .ok c.tokenId ∧
    string (field "iss" ms) = .ok c.issuer ∧ timestamp (field "iat" ms) = .ok c.issuedAt ∧
      Json.Decode.optional timestamp (field "nbf" ms) = .ok c.notBefore ∧
        timestamp (field "exp" ms) = .ok c.expiresAt ∧
          User.ofJson (field "User" ms) = .ok c.user := by
  simp only [string_field_eq_ok_iff, timestamp_field_eq_ok_iff, optional_timestamp_iff]
  constructor
  · intro h
    obtain ⟨hissued, hbegin, hexpires⟩ := floor_eq_iff.mp h.floor
    obtain ⟨u, hu, huser⟩ := h.user
    refine ⟨h.tokenId, h.issuer, ⟨h.issuedAt, h.inRange.issuedAt, hissued⟩,
      ⟨h.notBefore, fun t ht => ⟨h.inRange.notBefore t ht, ?_⟩⟩,
      ⟨h.expiresAt, h.inRange.expiresAt, hexpires⟩, ?_⟩
    · rw [Option.mem_def.mp ht] at hbegin
      exact Option.some.inj hbegin
    · rw [field, hu]
      exact huser
  · rintro ⟨hjti, hiss, ⟨hiat, hiatRange, hissued⟩, ⟨hnbf, hbegin⟩, ⟨hexp, hexpRange, hexpires⟩,
      huser⟩
    have hbegins : c.notBefore.map Instant.floor = c.notBefore := by
      cases ht : c.notBefore with
      | none => rfl
      | some t => exact congrArg some (hbegin t ht).2
    refine ⟨hjti, hiss, hiat, hnbf, hexp, ?_,
      ⟨fitsSigned_of_user huser, hiatRange, fun t ht => (hbegin t ht).1, hexpRange⟩,
      floor_eq_iff.mpr ⟨hissued, hbegins, hexpires⟩⟩
    cases hu : lookup "User" ms with
    | none =>
      rw [field, hu] at huser
      cases huser
    | some u =>
      rw [field, hu] at huser
      exact ⟨u, rfl, huser⟩

theorem ofJson_eq_ok_iff : ofJson v = .ok c ↔
    ∃ ms, fields "Claims" shape v = .ok ms ∧ c.IsIn ms := by
  rw [ofJson, bind_eq_ok_iff]
  refine exists_congr fun ms => and_congr_right fun _ => ?_
  rw [isIn_iff]
  constructor
  · intro h
    obtain ⟨tokenId, hjti, h⟩ := bind_eq_ok_iff.mp h
    obtain ⟨issuer, hiss, h⟩ := bind_eq_ok_iff.mp h
    obtain ⟨issuedAt, hiat, h⟩ := bind_eq_ok_iff.mp h
    obtain ⟨notBefore, hnbf, h⟩ := bind_eq_ok_iff.mp h
    obtain ⟨expiresAt, hexp, h⟩ := bind_eq_ok_iff.mp h
    obtain ⟨user, huser, h⟩ := bind_eq_ok_iff.mp h
    obtain rfl := Except.ok.inj h
    exact ⟨hjti, hiss, hiat, hnbf, hexp, huser⟩
  · rintro ⟨hjti, hiss, hiat, hnbf, hexp, huser⟩
    rw [hjti, hiss, hiat, hnbf, hexp, huser]
    rfl

theorem exists_lists (h : ofJson v = .ok c) : ∃ ms, Lists shape v ms ∧ c.IsIn ms := by
  obtain ⟨ms, hms, hc⟩ := ofJson_eq_ok_iff.mp h
  exact ⟨ms, lists_of_fields (by decide) hms, hc⟩

/-- Claims are read of whatever lists their members. -/
theorem ofJson_of_lists (h : Lists shape v ms) (hms : (ms.map Prod.fst).Nodup) (hc : c.IsIn ms) :
    ofJson v = .ok c := by
  obtain ⟨hjti, hiss, hiat, hnbf, hexp, huser⟩ := isIn_iff.mp hc
  refine ofJson_eq_ok_iff.mpr ⟨ms, fields_of_lists (by decide) (by decide) h hms ?_, hc⟩
  simp only [shape, List.forall_mem_cons]
  refine ⟨holds_of_read hjti ?_, holds_of_read hiss ?_, holds_of_read hiat ?_,
    holds_of_read hnbf (by simp), holds_of_read hexp ?_, holds_of_read huser ?_,
    List.forall_mem_nil _⟩
  all_goals rintro - a ⟨⟩

/-! ## The written form -/

/-- The text of claims. -/
def text (c : Claims) : List Char :=
  Json.Printer.value c.toJson

/-- Claims without fractions are read back. -/
theorem ofJson_toJson (h : c.InRange) (hfloor : c.floor = c) : ofJson c.toJson = .ok c := by
  obtain ⟨tokenId, issuer, issuedAt, notBefore, expiresAt, user⟩ := c
  have huser := User.ofJson_toJson h.id
  cases notBefore with
  | none =>
    refine ofJson_of_lists (.object _) (by simp) ⟨?_, ?_, ?_, ?_, ?_, ⟨_, ?_, huser⟩, h, hfloor⟩
    all_goals simp [Json.lookup_cons, Json.lookup_nil, field]
  | some t =>
    refine ofJson_of_lists (.object _) (by simp) ⟨?_, ?_, ?_, ?_, ?_, ⟨_, ?_, huser⟩, h, hfloor⟩
    all_goals simp [Json.lookup_cons, field]

/-- The text of claims is read as their value. -/
theorem read?_text (h : c.InRange) : Value.read? (Utf8.encode c.text) = some c.toJson.sorted := by
  rw [text, Value.read?, Json.read?_written (Token.fits_toJson h)]
  exact Json.ofNode_node _ _ (Token.fits_toJson h)

/-- Claims are kept by their written form. -/
structure IsKept (c : Claims) : Prop where
  /-- It is an object, which they are read from. -/
  value : ∃ ms, c.toJson = .object ms ∧ ofJson (.object ms) = .ok c
  /-- Its text stands for an object, which they are read from, to be written again as that text. -/
  text : ∃ ms, Value.read? (Utf8.encode c.text) = some (.object ms) ∧
    ofJson (.object ms) = .ok c ∧ ∀ c', ofJson (.object ms) = .ok c' → c'.text = c.text
  /-- No other claims that are read have that text. -/
  unique : ∀ v c', ofJson v = .ok c' → c'.text = c.text → c' = c

/-- Claims in range without fractions are kept by their text. -/
theorem isKept (h : c.InRange) (hfloor : c.floor = c) : c.IsKept := by
  have hsorted := ofJson_sorted h
  rw [hfloor] at hsorted
  refine ⟨⟨_, rfl, ofJson_toJson h hfloor⟩, ⟨_, read?_text h, hsorted, fun c' hc' => ?_⟩, ?_⟩
  · rw [Except.ok.inj (hc'.symm.trans hsorted)]
  · intro v c' hc' htext
    have hread := read?_text (inRange_of_ofJson hc')
    rw [htext, read?_text h] at hread
    have hsorted' := ofJson_sorted (inRange_of_ofJson hc')
    rw [← Option.some.inj hread, hsorted, floor_of_ofJson hc'] at hsorted'
    exact (Except.ok.inj hsorted').symm

/-- What is read as claims, and what becomes of it when it is written again. -/
structure IsRead (v : Value) (c : Claims) : Prop where
  kept : c.IsKept
  /-- The value is an object, or an array of six elements, that holds the fields. -/
  lists : ∃ ms, Lists shape v ms ∧ c.IsIn ms
  /-- The bounds of an object are read by themselves as they are read with the rest. -/
  bounds : ∀ ms, v = .object ms →
    Validity.ofJson v = .ok ⟨c.notBefore.map Instant.seconds, c.expiresAt.seconds⟩

/-- Claims of whole seconds are kept by their written form. So are claims that are read from any
value whatever, and what they are read from are the objects and arrays that hold their fields. -/
theorem wireForm :
    (∀ c : Claims, c.InRange → c.floor = c → c.IsKept) ∧
    (∀ v c, ofJson v = .ok c → IsRead v c) ∧
    (∀ v ms c, Lists shape v ms → (ms.map Prod.fst).Nodup → IsIn c ms → ofJson v = .ok c) ∧
    ∀ v u, (User.ofJson v = .ok u → ∃ ms, Lists User.shape v ms ∧ u.IsIn ms) ∧
      ∀ ms, Lists User.shape v ms → (ms.map Prod.fst).Nodup → u.IsIn ms →
        User.ofJson v = .ok u := by
  refine ⟨fun c => isKept, fun v c h => ?_, fun v ms c => ofJson_of_lists, fun v u => ?_⟩
  · refine ⟨isKept (inRange_of_ofJson h) (floor_of_ofJson h), exists_lists h, ?_⟩
    rintro ms rfl
    exact Validity.ofJson_of_claims h
  · exact ⟨User.exists_lists, fun ms => User.ofJson_of_lists⟩

/-- A visit without a beginning, with its fields in a row. -/
def visitRow : Value :=
  .array [.string "visit-1", .string "gatehouse", .int 0, .null, .int 60,
    .array [.int 1, .string "Visitor", .string "visitor@example.com", .string "visitor",
      .bool false]]

/-- Claims from an array, in which a user is an array as well. -/
theorem wireForm_visitRow :
    ofJson visitRow = .ok { Token.visit with notBefore := none } ∧
      ∃ ms, Value.read? (Utf8.encode (text { Token.visit with notBefore := none })) =
        some (.object ms) ∧ ofJson (.object ms) = .ok { Token.visit with notBefore := none } := by
  obtain ⟨-, hread, hlisted, huser⟩ := wireForm
  have hrow : ofJson visitRow = .ok { Token.visit with notBefore := none } := by
    refine hlisted _ _ _ (.array _ (by decide)) (by decide) ?_
    refine ⟨rfl, rfl, rfl, rfl, rfl, ⟨_, rfl, ?_⟩, ⟨by decide, by decide, nofun, by decide⟩, rfl⟩
    exact (huser _ _).2 _ (.array _ (by decide)) (by decide) ⟨rfl, rfl, rfl, rfl, rfl, by decide⟩
  obtain ⟨ms, hms, hobject, -⟩ := (hread _ _ hrow).kept.text
  exact ⟨hrow, ms, hms, hobject⟩

end Claims

end Gatehouse
