import Gatehouse.Proofs.Config.Environment
import Gatehouse.Proofs.Config.Rules
import Mathlib.Data.List.Perm.Basic

/-!
# Settings of wrong types

A source stands for a table of settings, which holds each key once and has no order
(`Source.IsTable`), and what is read of an environment is such a table
(`Source.isTable_laidOver_defaults`). Its entries do come in some order, and of several settings of
wrong types the first is reported. What may be reported in one order or another (`Source.MayFail`)
is settled by the table alone : the error of any setting of a wrong type, and only where there is
none of these the one that a missing setting or a rule makes (`Source.mayFail_iff`).
-/

namespace Gatehouse

namespace Source

variable {s t : Source} {key : String} {e : ConfigError}

/-! ## Tables -/

/-- A source that has one entry for each of its keys. -/
def IsTable (s : Source) : Prop :=
  (s.map Prod.fst).Nodup

instance (s : Source) : Decidable s.IsTable :=
  inferInstanceAs (Decidable (List.Nodup _))

/-- A key has an entry exactly if it is one of the keys. -/
theorem isSome_get?_iff : ∀ {s : Source}, (s.get? key).isSome = true ↔ key ∈ s.map Prod.fst
  | [] => by simp [get?]
  | p :: s => by
    rw [get?_cons, List.map_cons, List.mem_cons, ← isSome_get?_iff (s := s)]
    by_cases h : key = p.1
    · rw [if_pos h]
      exact iff_of_true rfl (Or.inl h)
    · rw [if_neg h, or_iff_right h]

theorem mem_of_get? {x : Entry} : ∀ {s : Source}, s.get? key = some x → (key, x) ∈ s
  | [], h => by
    rw [get?, List.lookup_nil] at h
    cases h
  | p :: s, h => by
    rw [get?_cons] at h
    split_ifs at h with hkey
    · obtain rfl := Option.some.inj h
      exact List.mem_cons.mpr (Or.inl (Prod.ext hkey rfl))
    · exact List.mem_cons_of_mem _ (mem_of_get? h)

/-- The entries of a table are what its keys have. -/
theorem get?_of_mem {x : Entry} : ∀ {s : Source}, s.IsTable → (key, x) ∈ s → s.get? key = some x
  | p :: s, h, hmem => by
    obtain ⟨hp, hs⟩ := List.nodup_cons.mp h
    rw [get?_cons]
    rcases List.mem_cons.mp hmem with rfl | hmem
    · exact if_pos rfl
    · have hkey : key ≠ p.1 := by
        rintro rfl
        exact hp (List.mem_map.mpr ⟨_, hmem, rfl⟩)
      rw [if_neg hkey]
      exact get?_of_mem hs hmem

/-- The order of the entries makes no difference to what a key has. -/
theorem get?_of_perm (hs : s.IsTable) (h : t.Perm s) (key : String) : t.get? key = s.get? key := by
  have ht : t.IsTable := (h.map Prod.fst).nodup_iff.mpr hs
  cases hkey : s.get? key with
  | some x => exact get?_of_mem ht (h.mem_iff.mpr (mem_of_get? hkey))
  | none =>
    have hnone : ¬(s.get? key).isSome = true := by simp [hkey]
    rw [isSome_get?_iff, ← (h.map Prod.fst).mem_iff, ← isSome_get?_iff] at hnone
    exact Option.not_isSome_iff_eq_none.mp hnone

theorem IsTable.set (h : s.IsTable) (key : String) (x : Entry) : (s.set key x).IsTable := by
  refine List.nodup_cons.mpr ⟨fun hmem => ?_, h.sublist (List.filter_sublist.map _)⟩
  obtain ⟨p, hp, rfl⟩ := List.mem_map.mp hmem
  have hne := (List.mem_filter.mp hp).2
  exact bne_iff_ne.mp hne rfl

theorem IsTable.putAt (h : s.IsTable) (path : Path) (x : Entry) : (s.putAt path x).IsTable := by
  cases path with
  | name key =>
    rw [Source.putAt, put]
    split
    · split_ifs
      · exact h
      · exact h.set key _
    · exact h.set key x
  | inTable key =>
    rw [Source.putAt]
    split <;> exact h.set key _
  | inList key =>
    rw [Source.putAt]
    split <;> exact h.set key _

/-- Variables that are laid over a table leave a table. -/
theorem IsTable.laidOver : ∀ (environment : Variables) {s : Source}, s.IsTable →
    (environment.laidOver s).IsTable
  | [], _, h => h
  | v :: environment, s, h => by
    rw [Variables.laidOver_cons]
    exact IsTable.laidOver environment (h.putAt _ _)

/-- What is read of an environment is a table, since the default settings are one. -/
theorem isTable_laidOver_defaults (environment : Variables) :
    (environment.laidOver defaults).IsTable :=
  IsTable.laidOver environment (by decide)

/-! ## What is read -/

theorem text_congr (h : s.get? key = t.get? key) : s.text key = t.text key := by
  rw [text, text, h]

theorem textOrNone_congr (h : s.get? key = t.get? key) : s.textOrNone key = t.textOrNone key := by
  rw [textOrNone, textOrNone, h, text_congr h]

theorem int_congr (h : s.get? key = t.get? key) : s.int key = t.int key := by
  rw [int, int, h]

theorem read_congr (h : s.get? key = t.get? key) : s.read key = t.read key := by
  rw [read, read, text_congr h, textOrNone_congr h, int_congr h]

/-- The error of the setting of a key, if it is not of the type that the key is read in. -/
def misfit? (s : Source) (key : String) : Option ConfigError :=
  if (s.get? key).isSome = true then fault (s.read key) else none

/-- Whether a setting is of a wrong type depends on its entry alone. -/
theorem misfit?_congr (h : s.get? key = t.get? key) : s.misfit? key = t.misfit? key := by
  rw [misfit?, misfit?, h, read_congr h]

theorem mem_of_misfit? (h : s.misfit? key = some e) : key ∈ s.map Prod.fst := by
  rw [misfit?] at h
  split_ifs at h with hkey
  exact isSome_get?_iff.mp hkey

/-- Keys that are there fail by the first of them that has a setting of a wrong type. -/
theorem fault_readEach : ∀ {keys : List String}, (∀ key ∈ keys, key ∈ s.map Prod.fst) →
    fault (s.readEach keys) = keys.findSome? s.misfit?
  | [], _ => rfl
  | key :: keys, h => by
    obtain ⟨hkey, hkeys⟩ := List.forall_mem_cons.mp h
    have hread : s.misfit? key = fault (s.read key) := if_pos (isSome_get?_iff.mpr hkey)
    rw [readEach, fault_bind fun _ => fault_readEach hkeys, List.findSome?_cons, hread]
    cases fault (s.read key) <;> rfl

/-- Whatever is there is read before anything is found missing, or to break a rule. -/
theorem fault_service (s : Source) :
    fault s.service = ((s.map Prod.fst).findSome? s.misfit?).or
      (fault (ConfigDraft.gather s >>= ConfigDraft.check)) := by
  rw [service, ConfigDraft.ofSource, bind_assoc, fault_bind fun _ => rfl, readAll,
    fault_readEach fun _ => id]

/-- None of the keys that are there has a wrong type exactly if no key at all has. -/
theorem findSome?_misfit?_eq_none_iff :
    (s.map Prod.fst).findSome? s.misfit? = none ↔ ∀ key, s.misfit? key = none := by
  rw [List.findSome?_eq_none_iff]
  refine ⟨fun h key => ?_, fun h key _ => h key⟩
  by_contra hsome
  obtain ⟨e, he⟩ := Option.ne_none_iff_exists'.mp hsome
  rw [h key (mem_of_misfit? he)] at he
  cases he

/-- A draft depends on what the keys have, and not on their order. -/
theorem gather_congr (h : ∀ key, s.get? key = t.get? key) :
    ConfigDraft.gather s = ConfigDraft.gather t := by
  simp only [ConfigDraft.gather, text_congr (h _), textOrNone_congr (h _), int_congr (h _)]

/-! ## Orders -/

/-- Some order of the entries makes the source fail by an error. -/
def MayFail (s : Source) (e : ConfigError) : Prop :=
  ∃ s' : Source, s'.Perm s ∧ s'.service = .error e

/-- A table may fail by the error of any setting of a wrong type, and by nothing else if there is
one. -/
theorem mayFail_iff (hs : s.IsTable) :
    s.MayFail e ↔ (∃ key, s.misfit? key = some e) ∨
      (∀ key, s.misfit? key = none) ∧
        fault (ConfigDraft.gather s >>= ConfigDraft.check) = some e := by
  constructor
  · rintro ⟨s', hperm, hfail⟩
    have hget := get?_of_perm hs hperm
    rw [← fault_eq_some_iff, fault_service, Option.or_eq_some_iff, gather_congr hget] at hfail
    rcases hfail with hfirst | ⟨hnone, hrest⟩
    · obtain ⟨key, -, hkey⟩ := List.exists_of_findSome?_eq_some hfirst
      exact Or.inl ⟨key, misfit?_congr (hget key) ▸ hkey⟩
    · refine Or.inr ⟨fun key => ?_, hrest⟩
      rw [← misfit?_congr (hget key)]
      exact findSome?_misfit?_eq_none_iff.mp hnone key
  · rintro (⟨key, hkey⟩ | ⟨hnone, hrest⟩)
    · -- The entry of this key is put first.
      obtain ⟨⟨_, x⟩, hx, rfl⟩ := List.mem_map.mp (mem_of_misfit? hkey)
      have hperm := (List.perm_cons_erase hx).symm
      refine ⟨_, hperm, ?_⟩
      rw [← misfit?_congr (get?_of_perm hs hperm _)] at hkey
      rw [← fault_eq_some_iff, fault_service, List.map_cons, List.findSome?_cons, hkey]
      rfl
    · refine ⟨s, List.Perm.refl s, ?_⟩
      rw [← fault_eq_some_iff, fault_service, findSome?_misfit?_eq_none_iff.mpr hnone]
      exact hrest

end Source

end Gatehouse
