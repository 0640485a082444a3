import Gatehouse.Metrics.Exposition
import Mathlib.Data.List.Count
import Mathlib.Data.List.Induction
import Mathlib.Data.List.Nodup
import Mathlib.Tactic.SplitIfs

/-!
# What a registry counts

A family that is updated once for every element of a list of labels is a tally of the list
(`Family.tally`) : a series for every element, with the number of times that it occurs. All four
families of a registry are tallies of one list, that of the labels of the requests it has observed
(`Registry.Counts`), and the two counters count the measurements of their own kind
(`Registry.rootGets_recordAll`, `Registry.notFounds_recordAll`).
-/

namespace Gatehouse

/-! ## Families -/

namespace Family

variable {α : Type}

/-- What a family counts : its series with the numbers of their samples. -/
def counts (count : α → Nat) (family : Family α) : Family Nat :=
  family.map fun s => (s.1, count s.2)

/-- A family of numbers with one more for some labels. -/
def bump (l : Labels) (family : Family Nat) : Family Nat :=
  update l 0 (· + 1) family

/-- The numbers of times that labels occur. -/
def tally (ls : List Labels) : Family Nat :=
  ls.foldl (fun family l => bump l family) []

/-- The sum of the numbers for some labels. -/
def total (p : Labels → Bool) (family : Family Nat) : Nat :=
  family.foldr (fun s rest => (if p s.1 = true then s.2 else 0) + rest) 0

theorem bump_cons (l k : Labels) (n : Nat) (rest : Family Nat) :
    bump l ((k, n) :: rest) = if k = l then (k, n + 1) :: rest else (k, n) :: bump l rest :=
  rfl

theorem counts_cons (count : α → Nat) (s : Labels × α) (rest : Family α) :
    counts count (s :: rest) = (s.1, count s.2) :: counts count rest :=
  rfl

/-- An update that adds a sample to a series adds one to what is counted. -/
theorem counts_update (count : α → Nat) (f : α → α) {fresh : α} (hfresh : count fresh = 0)
    (hf : ∀ x, count (f x) = count x + 1) (l : Labels) : ∀ family : Family α,
    counts count (update l fresh f family) = bump l (counts count family)
  | [] => by
    have hfirst : count (f fresh) = 1 := by rw [hf, hfresh]
    rw [update, counts_cons, hfirst]
    rfl
  | (k, x) :: rest => by
    rw [update, counts_cons, bump_cons]
    split_ifs
    · rw [counts_cons, hf]
    · rw [counts_cons, counts_update count f hfresh hf l rest]

theorem get?_cons (s : Labels × α) (family : Family α) (l : Labels) :
    get? (s :: family) l = if s.1 = l then some s.2 else get? family l := by
  rw [get?, List.find?_cons]
  by_cases h : s.1 = l
  · rw [decide_eq_true h, if_pos h]
    rfl
  · rw [decide_eq_false h, if_neg h]
    rfl

theorem mem_of_get? {family : Family α} {l : Labels} {x : α} (h : get? family l = some x) :
    (l, x) ∈ family := by
  obtain ⟨⟨k, y⟩, hfind, rfl⟩ := Option.map_eq_some_iff.mp h
  have hk : k = l := by simpa using List.find?_some hfind
  exact hk ▸ List.mem_of_find?_eq_some hfind

theorem get?_of_mem {l : Labels} {x : α} : ∀ {family : Family α},
    (family.map Prod.fst).Nodup → (l, x) ∈ family → get? family l = some x
  | (k, y) :: rest, hnodup, hmem => by
    obtain ⟨hk, hrest⟩ := List.nodup_cons.mp hnodup
    rw [get?_cons]
    rcases List.mem_cons.mp hmem with heq | hmem
    · obtain ⟨rfl, rfl⟩ := Prod.mk.inj heq
      rw [if_pos rfl]
    · have hne : k ≠ l := by
        rintro rfl
        exact hk (List.mem_map.mpr ⟨_, hmem, rfl⟩)
      rw [if_neg hne]
      exact get?_of_mem hrest hmem

/-- The series of the labels is one more, or one, and no other changes. -/
theorem get?_bump (l k : Labels) : ∀ family : Family Nat,
    get? (bump l family) k =
      if k = l then some ((get? family l).getD 0 + 1) else get? family k
  | [] => by
    rw [bump, update, get?_cons]
    simp only [eq_comm]
    rfl
  | (j, n) :: rest => by
    rw [bump_cons, get?_cons _ _ l, get?_cons _ _ k]
    by_cases hj : j = l
    · subst hj
      rw [if_pos rfl, if_pos rfl, get?_cons]
      simp only [eq_comm]
      split_ifs <;> rfl
    · rw [if_neg hj, if_neg hj, get?_cons, get?_bump l k rest]
      split_ifs with hjk hkl
      · exact absurd (hjk.trans hkl) hj
      · rfl
      · rfl
      · rfl

theorem total_cons (p : Labels → Bool) (s : Labels × Nat) (family : Family Nat) :
    total p (s :: family) = (if p s.1 = true then s.2 else 0) + total p family :=
  rfl

/-- A sum is one more exactly if the labels are among those that it is over. -/
theorem total_bump (p : Labels → Bool) (l : Labels) : ∀ family : Family Nat,
    total p (bump l family) = total p family + if p l = true then 1 else 0
  | [] => by
    rw [bump, update, total_cons, Nat.add_comm]
  | (k, n) :: rest => by
    rw [bump_cons, total_cons]
    by_cases hk : k = l
    · rw [if_pos hk, total_cons, ← hk]
      split_ifs <;> omega
    · rw [if_neg hk, total_cons, total_bump p l rest]
      omega

/-! ### Tallies -/

theorem tally_append_singleton (ls : List Labels) (l : Labels) :
    tally (ls ++ [l]) = bump l (tally ls) := by
  rw [tally, List.foldl_append, List.foldl_cons, List.foldl_nil, ← tally]

/-- A tally has a series for what occurs, and nothing else. -/
theorem get?_tally (ls : List Labels) (l : Labels) :
    get? (tally ls) l = if ls.count l = 0 then none else some (ls.count l) := by
  induction ls using List.reverseRecOn with
  | nil => rfl
  | append_singleton ls k ih =>
    rw [tally_append_singleton, get?_bump, List.count_append, List.count_singleton]
    by_cases hl : l = k
    · subst hl
      rw [if_pos rfl, if_pos (beq_self_eq_true l), if_neg (Nat.succ_ne_zero _), ih]
      split_ifs with hcount
      · rw [hcount]
        rfl
      · rfl
    · rw [if_neg hl, if_neg (mt beq_iff_eq.mp (Ne.symm hl)), Nat.add_zero]
      exact ih

/-- A sum over a tally is a number of elements of the list. -/
theorem total_tally (p : Labels → Bool) (ls : List Labels) : total p (tally ls) = ls.countP p := by
  induction ls using List.reverseRecOn with
  | nil => rfl
  | append_singleton ls k ih =>
    rw [tally_append_singleton, total_bump, ih, List.countP_append, List.countP_singleton]

/-- The series keep their places, and a new one is the last. -/
theorem map_fst_bump (l : Labels) : ∀ family : Family Nat, (bump l family).map Prod.fst =
    if l ∈ family.map Prod.fst then family.map Prod.fst else family.map Prod.fst ++ [l]
  | [] => rfl
  | (k, n) :: rest => by
    rw [bump_cons, List.map_cons]
    by_cases hk : k = l
    · rw [if_pos hk, if_pos (List.mem_cons.mpr (Or.inl hk.symm)), List.map_cons]
    · rw [if_neg hk, List.map_cons, map_fst_bump l rest]
      simp only [List.mem_cons, Ne.symm hk, false_or]
      split_ifs <;> rfl

/-- No two series of a tally have the same labels. -/
theorem nodup_tally (ls : List Labels) : ((tally ls).map Prod.fst).Nodup := by
  induction ls using List.reverseRecOn with
  | nil => exact List.nodup_nil
  | append_singleton ls k ih =>
    rw [tally_append_singleton, map_fst_bump]
    split_ifs with hk
    · exact ih
    · exact List.nodup_append_comm.mp (List.nodup_cons.mpr ⟨hk, ih⟩)

/-- The series of a tally are the labels of the list with their numbers. -/
theorem mem_tally (ls : List Labels) (l : Labels) (n : Nat) :
    (l, n) ∈ tally ls ↔ n = ls.count l ∧ n ≠ 0 := by
  have hget := get?_tally ls l
  constructor
  · intro hmem
    rw [get?_of_mem (nodup_tally ls) hmem] at hget
    split_ifs at hget with hcount
    obtain rfl := Option.some.inj hget
    exact ⟨rfl, hcount⟩
  · rintro ⟨rfl, hcount⟩
    rw [if_neg hcount] at hget
    exact mem_of_get? hget

end Family

/-! ## Registries -/

/-- The labels that a measurement counts for, if it is of a request. -/
def Measure.labels? : Measure → Option Labels
  | .request o => some o.labels
  | .rootGet | .notFound => none

/-- The number of samples. -/
def Histogram.count (h : Histogram) : Nat :=
  h.summary.count

/-- One more sample in a summary is one more in its series. -/
theorem Family.counts_update_summary (l : Labels) (x : Binary64) (family : Family Summary) :
    counts Summary.count (update l {} (·.add x) family) = bump l (counts Summary.count family) :=
  counts_update Summary.count (fun s => s.add x) rfl (fun _ => rfl) l family

namespace Registry

/-- All families of a registry are tallies of one list of labels. -/
structure Counts (r : Registry) (ls : List Labels) : Prop where
  requests : r.requests = Family.tally ls
  durations : Family.counts Histogram.count r.durations = Family.tally ls
  requestSizes : Family.counts Summary.count r.requestSizes = Family.tally ls
  responseSizes : Family.counts Summary.count r.responseSizes = Family.tally ls

variable {r : Registry} {ls : List Labels}

theorem counts_new (app : String) : (Registry.new app).Counts [] :=
  ⟨rfl, rfl, rfl, rfl⟩

/-- A request that is observed is counted once, with its own labels. -/
theorem Counts.observe (h : r.Counts ls) (o : Observation) :
    (r.observe o).Counts (ls ++ [o.labels]) := by
  have hrequests : (r.observe o).requests = Family.bump o.labels r.requests := rfl
  have hdurations : Family.counts Histogram.count (r.observe o).durations =
      Family.bump o.labels (Family.counts Histogram.count r.durations) :=
    Family.counts_update Histogram.count (fun h => h.add o.duration.seconds) rfl (fun _ => rfl) _ _
  have hrequestSizes : Family.counts Summary.count (r.observe o).requestSizes =
      Family.bump o.labels (Family.counts Summary.count r.requestSizes) :=
    Family.counts_update_summary _ _ _
  have hresponseSizes : Family.counts Summary.count (r.observe o).responseSizes =
      Family.bump o.labels (Family.counts Summary.count r.responseSizes) :=
    Family.counts_update_summary _ _ _
  constructor
  · rw [hrequests, h.requests, Family.tally_append_singleton]
  · rw [hdurations, h.durations, Family.tally_append_singleton]
  · rw [hrequestSizes, h.requestSizes, Family.tally_append_singleton]
  · rw [hresponseSizes, h.responseSizes, Family.tally_append_singleton]

theorem recordAll_cons (r : Registry) (m : Measure) (ms : List Measure) :
    MeasureSink.recordAll r (m :: ms) = MeasureSink.recordAll (r.record m) ms :=
  rfl

/-- Measurements add the labels of the requests among them, and nothing else, to all families. -/
theorem Counts.recordAll : ∀ {ms : List Measure} {r : Registry} {ls : List Labels}, r.Counts ls →
    (MeasureSink.recordAll r ms).Counts (ls ++ ms.filterMap Measure.labels?)
  | [], _, ls, h => by
    rw [List.filterMap_nil, List.append_nil]
    exact h
  | m :: ms, r, ls, h => by
    rw [recordAll_cons]
    cases m with
    | request o =>
      have hrest : (MeasureSink.recordAll (r.observe o) ms).Counts
          (ls ++ [o.labels] ++ ms.filterMap Measure.labels?) := (h.observe o).recordAll
      rwa [List.append_assoc] at hrest
    | rootGet => exact Counts.recordAll ⟨h.1, h.2, h.3, h.4⟩
    | notFound => exact Counts.recordAll ⟨h.1, h.2, h.3, h.4⟩

/-- The counter of the root page counts what is measured for it, and nothing else. -/
theorem rootGets_recordAll : ∀ (ms : List Measure) (r : Registry),
    (MeasureSink.recordAll r ms).rootGets = r.rootGets + ms.count .rootGet
  | [], _ => rfl
  | m :: ms, r => by
    rw [recordAll_cons, rootGets_recordAll ms, List.count_cons]
    cases m with
    | request o => rfl
    | rootGet => exact Nat.add_right_comm _ _ _
    | notFound => rfl

theorem notFounds_recordAll : ∀ (ms : List Measure) (r : Registry),
    (MeasureSink.recordAll r ms).notFounds = r.notFounds + ms.count .notFound
  | [], _ => rfl
  | m :: ms, r => by
    rw [recordAll_cons, notFounds_recordAll ms, List.count_cons]
    cases m with
    | request o => rfl
    | rootGet => rfl
    | notFound => exact Nat.add_right_comm _ _ _

end Registry

end Gatehouse
