import Gatehouse.Json.Decode
import Gatehouse.Proofs.Except
import Gatehouse.Proofs.Json.Written
import Mathlib.Data.String.Basic

/-!
# Members by key and records

What `insert` and `lookup` do to each other, and what the members of a value are once it has been
written and read (`lookup_sortedMembers`, `mem_sortedMembers`) : under every key the member
written last. The members of a value that has been read stand in the order of their keys
(`inOrder_of_ofNode?`), so a member is what `lookup` finds under its key (`lookup_of_mem`).

An object is read as a record if every member under the key of a field holds what the field has to
hold and no required field is absent (`Decode.fields_object_eq_ok_iff`). Neither depends on the
order of the members. An array is read as a record if its elements are such members, one for each
field in turn (`Decode.ofElements_eq_ok_iff`). So what a value is read as depends on the members
that it lists (`Decode.Lists`), and not on which kind of value it is (`Decode.fields_of_lists`).
-/

namespace Gatehouse.Json

/-! ## Members by key -/

theorem lookup_nil (key : String) : lookup key [] = none := rfl

theorem lookup_cons (key k : String) (x : Value) (ms : List (String × Value)) :
    lookup key ((k, x) :: ms) = if k = key then some x else lookup key ms := by
  by_cases h : k = key <;> simp [lookup, h]

theorem lookup_append (key : String) (ms ns : List (String × Value)) :
    lookup key (ms ++ ns) = (lookup key ms).or (lookup key ns) := by
  rw [lookup, List.find?_append, Option.map_or]
  rfl

/-- An inserted member is found under its key, and the other keys are as before. -/
theorem lookup_insert (key k : String) (x : Value) : ∀ ms : List (String × Value),
    lookup key (insert k x ms) = if k = key then some x else lookup key ms
  | [] => lookup_cons key k x []
  | (l, y) :: ms => by
    have ih := lookup_insert key k x ms
    simp only [insert]
    split_ifs with hl hlt hk hk
    · rw [lookup_cons, if_pos ‹k = key›]
    · rw [lookup_cons, lookup_cons, if_neg ‹¬k = key›, if_neg (by rwa [← hl])]
    · rw [lookup_cons, if_pos hk]
    · rw [lookup_cons, if_neg hk]
    · rw [lookup_cons, ih, if_pos ‹k = key›, if_neg]
      rintro rfl
      exact hl ‹k = l›
    · rw [lookup_cons, lookup_cons, ih, if_neg ‹¬k = key›]

theorem mem_of_lookup {key : String} {x : Value} {ms : List (String × Value)}
    (h : lookup key ms = some x) : (key, x) ∈ ms := by
  obtain ⟨m, hm, rfl⟩ := Option.map_eq_some_iff.mp h
  have hkey : m.1 = key := by simpa using List.find?_some hm
  rw [← hkey]
  exact List.mem_of_find?_eq_some hm

theorem mem_insert {k : String} {x : Value} {m : String × Value} :
    ∀ {ms : List (String × Value)}, m ∈ insert k x ms → m = (k, x) ∨ m ∈ ms
  | [], h => Or.inl (List.mem_singleton.mp h)
  | (l, y) :: ms, h => by
    simp only [insert] at h
    split_ifs at h
    · rcases List.mem_cons.mp h with h | h
      · exact Or.inl h
      · exact Or.inr (List.mem_cons_of_mem _ h)
    · exact List.mem_cons.mp h
    · rcases List.mem_cons.mp h with h | h
      · exact Or.inr (h ▸ List.mem_cons_self)
      · exact (mem_insert h).imp_right (List.mem_cons_of_mem _)

/-- The value under a key is the one written last, in order itself. -/
theorem lookup_sortedMembers (key : String) : ∀ ms done : List (String × Value),
    lookup key (Value.sortedMembers ms done) =
      ((lookup key ms.reverse).map Value.sorted).or (lookup key done)
  | [], _ => by simp [Value.sortedMembers, lookup_nil]
  | (k, x) :: ms, done => by
    rw [Value.sortedMembers, lookup_sortedMembers key ms, lookup_insert, List.reverse_cons,
      lookup_append, lookup_cons, lookup_nil]
    cases lookup key ms.reverse with
    | some y => rfl
    | none => split_ifs <;> rfl

/-- Sorting brings in no member that was not there. -/
theorem mem_sortedMembers {m : String × Value} : ∀ {ms done : List (String × Value)},
    m ∈ Value.sortedMembers ms done → m ∈ done ∨ ∃ n ∈ ms, m = (n.1, n.2.sorted)
  | [], _, h => by
    rw [Value.sortedMembers] at h
    exact Or.inl h
  | (k, x) :: ms, done, h => by
    rw [Value.sortedMembers] at h
    rcases mem_sortedMembers h with h | ⟨n, hn, rfl⟩
    · rcases mem_insert h with rfl | h
      · exact Or.inr ⟨(k, x), List.mem_cons_self, rfl⟩
      · exact Or.inl h
    · exact Or.inr ⟨n, List.mem_cons_of_mem _ hn, rfl⟩

/-- Every key stands before those behind it. -/
def InOrder (ms : List (String × Value)) : Prop :=
  ms.Pairwise fun m n => m.1 < n.1

theorem inOrder_insert {k : String} {x : Value} : ∀ {ms : List (String × Value)},
    InOrder ms → InOrder (insert k x ms)
  | [], _ => List.pairwise_singleton _ _
  | (l, y) :: ms, h => by
    obtain ⟨hhead, htail⟩ := List.pairwise_cons.mp h
    simp only [insert]
    split_ifs with heq hlt
    · subst heq
      exact List.pairwise_cons.mpr ⟨hhead, htail⟩
    · refine List.pairwise_cons.mpr ⟨fun m hm => ?_, h⟩
      rcases List.mem_cons.mp hm with rfl | hm
      · exact hlt
      · exact String.lt_trans hlt (hhead m hm)
    · refine List.pairwise_cons.mpr ⟨fun m hm => ?_, inOrder_insert htail⟩
      rcases mem_insert hm with rfl | hm
      · exact (lt_or_gt_of_ne heq).resolve_left hlt
      · exact hhead m hm

/-- In an object that is in order no key stands twice. -/
theorem InOrder.nodup_keys {ms : List (String × Value)} (h : InOrder ms) :
    (ms.map Prod.fst).Nodup :=
  List.pairwise_map.mpr (h.imp ne_of_lt)

/-- With each key once, no member hides another. -/
theorem lookup_of_mem {m : String × Value} : ∀ {ms : List (String × Value)},
    (ms.map Prod.fst).Nodup → m ∈ ms → lookup m.1 ms = some m.2
  | (l, y) :: ms, h, hm => by
    obtain ⟨hhead, htail⟩ := List.nodup_cons.mp h
    rw [lookup_cons]
    rcases List.mem_cons.mp hm with rfl | hm
    · rw [if_pos rfl]
    · have hne : l ≠ m.1 := fun heq => hhead (List.mem_map.mpr ⟨m, hm, heq.symm⟩)
      rw [if_neg hne, lookup_of_mem htail hm]

namespace Decode

variable {name : String} {shape : List Field} {ms : List (String × Value)}

/-- Members are accepted exactly if each of them is, where its key is one of the shape. -/
theorem checkMembers_eq_ok_iff : ∀ {ms : List (String × Value)},
    checkMembers shape ms = .ok () ↔
      ∀ m ∈ ms, ∀ f, shape.find? (fun f => f.key == m.1) = some f → f.check m.2 = .ok ()
  | [] => by simp [checkMembers]
  | (k, x) :: ms => by
    rw [checkMembers, List.forall_mem_cons, ← checkMembers_eq_ok_iff]
    cases hf : shape.find? fun f => f.key == k with
    | none => simp
    | some f =>
      simp only [Option.some.injEq, forall_eq', bind_eq_ok_iff]
      constructor
      · rintro ⟨⟨⟩, hf, hms⟩
        exact ⟨hf, hms⟩
      · rintro ⟨hf, hms⟩
        exact ⟨(), hf, hms⟩

/-- Nothing is missing exactly if all that is required is there. -/
theorem checkPresent_eq_ok_iff : ∀ {shape : List Field}, checkPresent ms shape = .ok () ↔
    ∀ f ∈ shape, f.required = true → (lookup f.key ms).isSome = true
  | [] => by simp [checkPresent]
  | f :: shape => by
    rw [checkPresent, List.forall_mem_cons, ← checkPresent_eq_ok_iff]
    cases f.required <;> cases lookup f.key ms <;> simp

/-- An object is a record by what stands under its keys, in whatever order. -/
theorem fields_object_eq_ok_iff {fs : List (String × Value)} :
    fields name shape (.object ms) = .ok fs ↔ fs = ms ∧
      (∀ m ∈ ms, ∀ f, shape.find? (fun f => f.key == m.1) = some f → f.check m.2 = .ok ()) ∧
      ∀ f ∈ shape, f.required = true → (lookup f.key ms).isSome = true := by
  rw [fields, bind_eq_ok_iff, ← checkMembers_eq_ok_iff, ← checkPresent_eq_ok_iff]
  constructor
  · rintro ⟨⟨⟩, hmembers, h⟩
    obtain ⟨⟨⟩, hpresent, h⟩ := bind_eq_ok_iff.mp h
    exact ⟨(Except.ok.inj h).symm, hmembers, hpresent⟩
  · rintro ⟨rfl, hmembers, hpresent⟩
    exact ⟨(), hmembers, bind_eq_ok_iff.mpr ⟨(), hpresent, rfl⟩⟩

theorem find?_key {f : Field} : ∀ {shape : List Field}, (shape.map Field.key).Nodup →
    f ∈ shape → (shape.find? fun g => g.key == f.key) = some f
  | g :: shape, hkeys, hf => by
    obtain ⟨hg, hkeys⟩ := List.nodup_cons.mp hkeys
    rcases List.mem_cons.mp hf with rfl | hf
    · simp
    · have hne : g.key ≠ f.key := fun heq => hg (heq ▸ List.mem_map_of_mem hf)
      rw [List.find?_cons_of_neg (by simpa using hne)]
      exact find?_key hkeys hf

/-- Members hold a field : what stands under its key is what it has to be, and if the field is
required something does. -/
def Field.Holds (f : Field) (ms : List (String × Value)) : Prop :=
  (∀ x ∈ lookup f.key ms, f.check x = .ok ()) ∧
    (f.required = true → (lookup f.key ms).isSome = true)

/-- An object with each of its keys once is a record by what `lookup` finds for each field. -/
theorem fields_nodup_eq_ok_iff {fs : List (String × Value)} (hms : (ms.map Prod.fst).Nodup)
    (hkeys : (shape.map Field.key).Nodup) :
    fields name shape (.object ms) = .ok fs ↔ fs = ms ∧ ∀ f ∈ shape, f.Holds ms := by
  rw [fields_object_eq_ok_iff]
  constructor
  · rintro ⟨heq, hmembers, hpresent⟩
    refine ⟨heq, fun f hf => ⟨fun x hx => ?_, hpresent f hf⟩⟩
    exact hmembers _ (mem_of_lookup hx) f (find?_key hkeys hf)
  · rintro ⟨heq, hfields⟩
    refine ⟨heq, fun m hm f hf => ?_, fun f hf => (hfields f hf).2⟩
    have hkey : f.key = m.1 := by simpa using List.find?_some hf
    refine (hfields f (List.mem_of_find?_eq_some hf)).1 m.2 ?_
    rw [hkey]
    exact lookup_of_mem hms hm

/-- The members of a record are read back as they were written, put in order. -/
theorem fields_sorted
    (hms : ∀ m ∈ ms, ∀ f, shape.find? (fun f => f.key == m.1) = some f →
      f.check m.2.sorted = .ok ())
    (hshape : ∀ f ∈ shape, f.required = true → (lookup f.key ms.reverse).isSome = true) :
    fields name shape (Value.object ms).sorted = .ok (Value.sortedMembers ms []) := by
  rw [Value.sorted, fields_object_eq_ok_iff]
  refine ⟨rfl, fun m hm f hf => ?_, fun f hf hreq => ?_⟩
  · rcases mem_sortedMembers hm with hm | ⟨n, hn, rfl⟩
    · cases hm
    · exact hms n hn f hf
  · rw [lookup_sortedMembers, lookup_nil, Option.or_none, Option.isSome_map]
    exact hshape f hf hreq

/-- Of members with one key the last is kept when they are sorted. -/
theorem field_sorted (key : String) :
    field key (Value.sortedMembers ms []) =
      ((lookup key ms.reverse).map Value.sorted).getD .null := by
  rw [field, lookup_sortedMembers, lookup_nil, Option.or_none]

/-- What can be read of a field, the members hold : null stands for a field that is absent, so if it
cannot be read the field is there. -/
theorem holds_of_read {α : Type} {read : Value → Except DecodeError α} {key : String} {a : α}
    {required : Bool} (h : read (field key ms) = .ok a)
    (hnull : required = true → ∀ a, read .null ≠ .ok a) :
    (⟨key, readable read, required⟩ : Field).Holds ms := by
  rw [field] at h
  refine ⟨fun x hx => ?_, fun hrequired => ?_⟩
  · rw [Option.mem_def.mp hx] at h
    exact map_eq_ok_iff.mpr ⟨a, h, rfl⟩
  · cases hlookup : lookup key ms with
    | none =>
      rw [hlookup] at h
      exact absurd h (hnull hrequired a)
    | some x => rfl

/-- A value other than null is that of a member. -/
theorem field_eq_iff {key : String} {x : Value} (hx : x ≠ .null) :
    field key ms = x ↔ lookup key ms = some x := by
  rw [field]
  cases lookup key ms with
  | none => simpa using hx.symm
  | some y => simp

/-! ## Arrays -/

/-- The elements of an array are those of a record exactly if there is one for each field and it is
what the field has to hold, unless the last field may be absent. -/
theorem ofElements_eq_ok_iff {total : Nat} : ∀ {position : Nat} {shape : List Field}
    {items : List Value} {fs : List (String × Value)}, (∀ f ∈ shape.getLast?, f.required = true) →
      (ofElements name total position shape items = .ok fs ↔ items.length = shape.length ∧
        fs = (shape.map Field.key).zip items ∧ ∀ p ∈ shape.zip items, p.1.check p.2 = .ok ())
  | _, [], [], fs, _ => by simp [ofElements, eq_comm]
  | _, [], _ :: _, _, _ => by simp [ofElements]
  | position, f :: shape, items, fs, hlast => by
    have htail : ∀ g ∈ shape.getLast?, g.required = true := fun g hg =>
      hlast g (by rw [List.getLast?_cons, Option.mem_def.mp hg]; rfl)
    cases items with
    | nil =>
      have ih : ofElements name total (position + 1) shape [] = .ok fs ↔ _ :=
        ofElements_eq_ok_iff htail
      -- Without an element even a field that may be absent leads on to the last one, which may not.
      rw [ofElements]
      split_ifs with hrequired
      · simp
      · rw [ih]
        cases shape with
        | nil => exact absurd (hlast f rfl) hrequired
        | cons g shape => simp
    | cons x items =>
      rw [ofElements, bind_eq_ok_iff]
      constructor
      · rintro ⟨⟨⟩, hx, h⟩
        obtain ⟨gs, hgs, h⟩ := bind_eq_ok_iff.mp h
        obtain rfl := Except.ok.inj h
        obtain ⟨hlength, rfl, hitems⟩ := (ofElements_eq_ok_iff htail).mp hgs
        exact ⟨congrArg Nat.succ hlength, rfl, List.forall_mem_cons.mpr ⟨hx, hitems⟩⟩
      · rintro ⟨hlength, rfl, hall⟩
        obtain ⟨hx, hitems⟩ := List.forall_mem_cons.mp hall
        exact ⟨(), hx, bind_eq_ok_iff.mpr
          ⟨_, (ofElements_eq_ok_iff htail).mpr ⟨Nat.succ.inj hlength, rfl, hitems⟩, rfl⟩⟩

/-- A value lists members for a record : they are its own, or its elements under the keys of the
fields, one for each. -/
inductive Lists (shape : List Field) : Value → List (String × Value) → Prop
  | object (ms : List (String × Value)) : Lists shape (.object ms) ms
  | array (items : List Value) (h : items.length = shape.length) :
    Lists shape (.array items) ((shape.map Field.key).zip items)

/-- A value that is read as a record lists the members that are read. -/
theorem lists_of_fields {v : Value} (hlast : ∀ f ∈ shape.getLast?, f.required = true)
    (h : fields name shape v = .ok ms) : Lists shape v ms := by
  cases v with
  | object members =>
    obtain ⟨rfl, -, -⟩ := fields_object_eq_ok_iff.mp h
    exact .object ms
  | array items =>
    obtain ⟨hlength, rfl, -⟩ := (ofElements_eq_ok_iff hlast).mp h
    exact .array items hlength
  | _ => cases h

/-- Either kind of value is read as a record by what the members hold that it lists. -/
theorem fields_of_lists {v : Value} (hlast : ∀ f ∈ shape.getLast?, f.required = true)
    (hkeys : (shape.map Field.key).Nodup) (h : Lists shape v ms) (hms : (ms.map Prod.fst).Nodup)
    (hholds : ∀ f ∈ shape, f.Holds ms) : fields name shape v = .ok ms := by
  cases h with
  | object => exact (fields_nodup_eq_ok_iff hms hkeys).mpr ⟨rfl, hholds⟩
  | array items hlength =>
    refine (ofElements_eq_ok_iff hlast).mpr ⟨hlength, rfl, fun p hp => ?_⟩
    have hmem : (p.1.key, p.2) ∈ (shape.map Field.key).zip items := by
      rw [List.zip_map_left]
      exact List.mem_map_of_mem (f := Prod.map Field.key id) hp
    exact (hholds p.1 (List.of_mem_zip hp).1).1 p.2 (lookup_of_mem hms hmem)

end Decode

end Gatehouse.Json
