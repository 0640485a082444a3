import Gatehouse.Proofs.Route.Mounting

/-!
# The slots of a path

A path has a slot for every verb, and its entries are put into the slots one after the other. What
an entry is kept under is the name of its method, which is read again for this
(`Slots.verbsNamed_name`), and its verbs are then those that it has beside the others. Two steps
have no result : to put nothing at all behind the gate (`Slots.guarded?`), and to fill a slot twice
(`Slots.merge?`).

Neither is ever taken. Different entries of a path have no verb in common, and those without a verb
are left out (`Resource.pairwise_disjoint`). So the slots of every path of a table can be filled,
each with the entry that answers its verb, and with the gate in front exactly if the entry is
protected (`Routes.fills_of_inOrder`).
-/

namespace Gatehouse

/-! ## Filling slots -/

/-- What a path has for each verb. -/
abbrev Slots (α : Type) := Verb → Option (Route α)

namespace Slots

variable {α : Type}

/-- A handler in the slots of some verbs, in front of the gate. -/
def on (verbs : List Verb) (handler : α) : Slots α :=
  fun v => if v ∈ verbs then some ⟨handler, false⟩ else none

/-- The slots behind the gate, if any is filled. -/
def guarded? (s : Slots α) : Option (Slots α) :=
  if ∃ v ∈ Verb.all, (s v).isSome then
    some fun v => (s v).map fun e => { e with isProtected := true }
  else none

/-- Both in one, if no slot is filled twice. -/
def merge? (s t : Slots α) : Option (Slots α) :=
  if ∃ v ∈ Verb.all, (s v).isSome ∧ (t v).isSome then none else some fun v => (s v).or (t v)

/-- The slots of an entry. -/
def ofMount? (m : Mount α) : Option (Slots α) :=
  if m.entry.isProtected then (on m.verbs m.entry.handler).guarded?
  else some (on m.verbs m.entry.handler)

/-- The slots that have been filled, if any have, with one more entry. An entry without verbs is
left out. -/
def add? (filled : Option (Slots α)) (m : Mount α) : Option (Option (Slots α)) :=
  if m.verbs.isEmpty then some filled
  else
    match filled with
    | none => (ofMount? m).map some
    | some s => ((ofMount? m).bind s.merge?).map some

/-- The slots of entries, one after the other. -/
def ofMounts? (ms : List (Mount α)) : Option (Option (Slots α)) :=
  ms.foldlM add? none

/-- The verbs for the name of a method, or for no name, beside the names of other entries. -/
def verbsNamed (names : List String) : Option String → List Verb
  | some name => (Verb.ofName? name).toList
  | none => Resource.remaining (names.filterMap Verb.ofName?)

/-- The slots of entries that are kept under the names of their methods. -/
def assemble? (entries : List (Option String × Route α)) : Option (Option (Slots α)) :=
  ofMounts? (entries.map fun e => ⟨verbsNamed (entries.filterMap Prod.fst) e.1, e.2⟩)

/-! ### What is filled -/

/-- An entry fills the slots of its verbs with itself. -/
theorem ofMount?_eq {m : Mount α} (h : m.verbs ≠ []) :
    ofMount? m = some fun v => if v ∈ m.verbs then some m.entry else none := by
  obtain ⟨verbs, handler, isProtected⟩ := m
  rw [ofMount?]
  cases isProtected with
  | false => rfl
  | true =>
    have hfilled : ∃ v ∈ Verb.all, (on verbs handler v).isSome := by
      obtain ⟨v, hv⟩ := List.exists_mem_of_ne_nil verbs h
      exact ⟨v, v.mem_all, by rw [on, if_pos hv]; rfl⟩
    rw [if_pos rfl, guarded?, if_pos hfilled]
    congr 1
    funext v
    rw [on]
    split_ifs <;> rfl

/-- Slots of which no two are taken at once are joined. -/
theorem merge?_eq {s t : Slots α} (h : ∀ v e f, s v = some e → t v = some f → False) :
    s.merge? t = some fun v => (s v).or (t v) := by
  rw [merge?, if_neg]
  rintro ⟨v, -, hs, ht⟩
  obtain ⟨e, he⟩ := Option.isSome_iff_exists.mp hs
  obtain ⟨f, hf⟩ := Option.isSome_iff_exists.mp ht
  exact h v e f he hf

/-- What one more entry changes : its verbs have been filled by nothing before, and are then filled
by it. -/
theorem exists_add? {filled : Option (Slots α)} {m : Mount α}
    (h : ∀ v ∈ m.verbs, filled.bind (· v) = none) :
    ∃ more, add? filled m = some more ∧
      (∀ v, more.bind (· v) = (filled.bind (· v)).or (if v ∈ m.verbs then some m.entry else none)) ∧
      (more.isSome = true ↔ filled.isSome = true ∨ m.verbs ≠ []) := by
  by_cases hverbs : m.verbs = []
  · refine ⟨filled, ?_, fun v => ?_, by simp [hverbs]⟩
    · unfold add?
      rw [hverbs]
      rfl
    · rw [hverbs, if_neg List.not_mem_nil, Option.or_none]
  · have hnonempty : m.verbs.isEmpty = false := List.isEmpty_eq_false_iff.mpr hverbs
    have hmount := ofMount?_eq hverbs
    unfold add?
    rw [hnonempty, hmount, if_neg Bool.false_ne_true]
    cases filled with
    | none => exact ⟨some _, rfl, fun v => Option.none_or.symm, by simp [hverbs]⟩
    | some s =>
      have hmerge : s.merge? (fun v => if v ∈ m.verbs then some m.entry else none) =
          some fun v => (s v).or (if v ∈ m.verbs then some m.entry else none) := by
        refine merge?_eq fun v e f hs hf => ?_
        split_ifs at hf with hv
        cases hs.symm.trans (h v hv)
      exact ⟨some _, congrArg (Option.map some) hmerge, fun v => rfl, by simp⟩

/-- Entries that have no verb in common fill the slots of their verbs, whatever has been filled
beside these. -/
theorem exists_foldlM_add? : ∀ {ms : List (Mount α)} {filled : Option (Slots α)},
    ms.Pairwise (fun m n => m.verbs.Disjoint n.verbs) →
      (∀ m ∈ ms, ∀ v ∈ m.verbs, filled.bind (· v) = none) →
        ∃ more, ms.foldlM add? filled = some more ∧
          (∀ v, more.bind (· v) = (filled.bind (· v)).or
            ((ms.find? fun m => m.verbs.contains v).map Mount.entry)) ∧
          (more.isSome = true ↔ filled.isSome = true ∨ ∃ m ∈ ms, m.verbs ≠ [])
  | [], filled, _, _ => ⟨filled, rfl, fun _ => Option.or_none.symm, by simp⟩
  | m :: ms, filled, hdisjoint, hfree => by
    obtain ⟨hm, hms⟩ := List.pairwise_cons.mp hdisjoint
    obtain ⟨more, hadd, hslots, hsome⟩ := exists_add? (hfree m List.mem_cons_self)
    have hfree' : ∀ n ∈ ms, ∀ v ∈ n.verbs, more.bind (· v) = none := by
      intro n hn v hv
      rw [hslots, hfree n (List.mem_cons_of_mem _ hn) v hv, if_neg fun hmem => hm n hn hmem hv]
      rfl
    obtain ⟨more', hadd', hslots', hsome'⟩ := exists_foldlM_add? hms hfree'
    refine ⟨more', ?_, fun v => ?_, ?_⟩
    · rw [List.foldlM_cons, hadd]
      exact hadd'
    · rw [hslots', hslots, Option.or_assoc, List.find?_cons]
      by_cases hv : v ∈ m.verbs
      · rw [if_pos hv, List.contains_iff_mem.mpr hv]
        rfl
      · rw [if_neg hv, Bool.eq_false_iff.mpr (mt List.contains_iff_mem.mp hv)]
        rfl
    · simp only [hsome', hsome, List.mem_cons, exists_eq_or_imp, or_assoc]

/-- An entry has its own method back from the name that it is kept under, and the verbs that it has
beside the others. -/
theorem verbsNamed_name (entries : List (Option Verb × Route α)) (verb : Option Verb) :
    verbsNamed ((Resource.claimed entries).map Verb.name) (verb.map Verb.name) =
      Resource.verbsFor (Resource.claimed entries) verb := by
  cases verb with
  | some v => rw [Option.map_some, verbsNamed, Verb.ofName?_name]; rfl
  | none =>
    have hread : ((Resource.claimed entries).map Verb.name).filterMap Verb.ofName? =
        Resource.claimed entries := by
      rw [List.filterMap_map]
      exact (List.filterMap_congr fun v _ => Verb.ofName?_name v).trans List.filterMap_some
    rw [Option.map_none, verbsNamed, hread]
    rfl

/-- The names of the verbs are the slots that the mounts take. -/
theorem assemble?_name (entries : List (Option Verb × Route α)) :
    assemble? (entries.map fun e => (e.1.map Verb.name, e.2)) =
      ofMounts? (entries.map fun e => ⟨Resource.verbsFor (Resource.claimed entries) e.1, e.2⟩) := by
  have hnames : (entries.map fun e => (e.1.map Verb.name, e.2)).filterMap Prod.fst =
      (Resource.claimed entries).map Verb.name := by
    rw [List.filterMap_map, Resource.claimed, List.map_filterMap]
    rfl
  rw [assemble?, hnames, List.map_map]
  congr 1
  exact List.map_congr_left fun e _ => by
    rw [Function.comp_apply, verbsNamed_name]

end Slots

/-! ## The mounts of a path -/

namespace Resource

variable {α : Type} {entries : List (Option Verb × Route α)} {m : Mount α}

theorem mem_mountsOf : m ∈ mountsOf entries ↔
    (∃ e ∈ entries, ⟨verbsFor (claimed entries) e.1, e.2⟩ = m) ∧ m.verbs ≠ [] := by
  rw [mountsOf, List.mem_filter, List.mem_map, Bool.not_eq_true', List.isEmpty_eq_false_iff]

/-- Different entries have no verb in common. -/
theorem disjoint_verbsFor {e f : Option Verb × Route α} (he : e ∈ entries) (hf : f ∈ entries)
    (hne : e.1 ≠ f.1) :
    (verbsFor (claimed entries) e.1).Disjoint (verbsFor (claimed entries) f.1) := by
  intro v hve hvf
  rcases contains_verbsFor.mp (List.contains_iff_mem.mpr hve) with hve | ⟨hve, hunclaimed⟩
  · rcases contains_verbsFor.mp (List.contains_iff_mem.mpr hvf) with hvf | ⟨-, hunclaimed⟩
    · exact hne (hve.trans hvf.symm)
    · exact hunclaimed (mem_claimed.mpr ⟨e, he, hve⟩)
  · rcases contains_verbsFor.mp (List.contains_iff_mem.mpr hvf) with hvf | ⟨hvf, -⟩
    · exact hunclaimed (mem_claimed.mpr ⟨f, hf, hvf⟩)
    · exact hne (hve.trans hvf.symm)

/-- What answers a verb is the same whether or not the entries without verbs are left out. -/
theorem find?_map_verbsFor (entries : List (Option Verb × Route α)) (v : Verb) :
    ((entries.map fun e => (⟨verbsFor (claimed entries) e.1, e.2⟩ : Mount α)).find?
        fun m => m.verbs.contains v).map Mount.entry =
      (first? entries (some v)).or (first? entries none) := by
  rw [← find?_mountsOf_eq, find?_mountsOf, List.find?_map, Option.map_map]
  rfl

/-- Entries for different verbs take different slots. -/
theorem pairwise_disjoint (h : entries.Pairwise fun e f => e.1 ≠ f.1) :
    (entries.map fun e => (⟨verbsFor (claimed entries) e.1, e.2⟩ : Mount α)).Pairwise
      fun m n => m.verbs.Disjoint n.verbs :=
  List.pairwise_map.mpr (h.imp_of_mem fun he hf hne => disjoint_verbsFor he hf hne)

end Resource

/-! ## The slots of a path -/

namespace Routes

variable {α : Type} {t : Routes α} {path : String} {verb : Option Verb} {e : Route α}

/-- What a path of a table has to answer with, entry by entry. -/
def mountsAt (t : Routes α) (path : String) : List (Mount α) :=
  Resource.mountsOf (t.entriesAt path)

/-- The entries of a path under the names of their methods. -/
def namedEntriesAt (t : Routes α) (path : String) : List (Option String × Route α) :=
  (t.entriesAt path).map fun e => (e.1.map Verb.name, e.2)

theorem mem_entriesAt (h : t.InOrder) :
    (verb, e) ∈ t.entriesAt path ↔ t.get? ⟨verb, path⟩ = some e := by
  rw [entriesAt, List.mem_filterMap]
  constructor
  · rintro ⟨⟨⟨w, path'⟩, f⟩, hmem, hsome⟩
    split_ifs at hsome with hpath
    obtain ⟨rfl, rfl⟩ := Prod.mk.inj (Option.some.inj hsome)
    obtain rfl : path' = path := hpath
    exact get?_of_mem h hmem
  · intro hget
    exact ⟨_, mem_of_get? hget, if_pos rfl⟩

theorem pairwise_entriesAt (h : t.InOrder) (path : String) :
    (t.entriesAt path).Pairwise fun e f => e.1 ≠ f.1 := by
  refine List.pairwise_filterMap.mpr (h.imp fun {r s} hbefore => ?_)
  rintro e he f hf heq
  split_ifs at he with hr
  split_ifs at hf with hs
  obtain rfl := Option.some.inj he
  obtain rfl := Option.some.inj hf
  -- Two patterns of one path for one method are one pattern, which does not stand before itself.
  have hpattern : r.1 = s.1 := by
    obtain ⟨⟨v, p⟩, f⟩ := r
    obtain ⟨⟨w, q⟩, g⟩ := s
    exact congrArg₂ RoutePattern.mk heq (hr.trans hs.symm)
  rw [hpattern] at hbefore
  exact RoutePattern.before_irrefl _ hbefore

/-- A path is mounted with the entries of the table that are left a verb. -/
theorem mem_mountsAt (h : t.InOrder) {m : Mount α} : m ∈ t.mountsAt path ↔
    (∃ verb, t.get? ⟨verb, path⟩ = some m.entry ∧
      m.verbs = Resource.verbsFor (Resource.claimed (t.entriesAt path)) verb) ∧ m.verbs ≠ [] := by
  rw [mountsAt, Resource.mem_mountsOf]
  refine and_congr_left fun _ => ⟨?_, ?_⟩
  · rintro ⟨⟨verb, e⟩, he, rfl⟩
    exact ⟨verb, (mem_entriesAt h).mp he, rfl⟩
  · rintro ⟨verb, hget, hverbs⟩
    exact ⟨(verb, m.entry), (mem_entriesAt h).mpr hget, by rw [← hverbs]⟩

theorem mem_claimed_iff (h : t.InOrder) {v : Verb} :
    v ∈ Resource.claimed (t.entriesAt path) ↔ (t.get? ⟨some v, path⟩).isSome = true := by
  rw [Resource.mem_claimed, Option.isSome_iff_exists]
  constructor
  · rintro ⟨⟨verb, e⟩, he, rfl⟩
    exact ⟨e, (mem_entriesAt h).mp he⟩
  · rintro ⟨e, hget⟩
    exact ⟨(some v, e), (mem_entriesAt h).mpr hget, rfl⟩

/-! ### Mounting -/

/-- An entry for a verb is mounted for that verb. -/
theorem mem_mountsAt_of_verb (h : t.InOrder) {v : Verb} (hget : t.get? ⟨some v, path⟩ = some e) :
    ⟨[v], e⟩ ∈ t.mountsAt path :=
  (mem_mountsAt h).mpr ⟨⟨some v, hget, rfl⟩, List.cons_ne_nil v []⟩

/-- With an entry for every method there is no verb without an entry. -/
theorem exists_mem_mountsAt (h : t.InOrder) (hget : t.get? ⟨none, path⟩ = some e) (v : Verb) :
    ∃ m ∈ t.mountsAt path, v ∈ m.verbs := by
  cases hverb : t.get? ⟨some v, path⟩ with
  | some f => exact ⟨_, mem_mountsAt_of_verb h hverb, List.mem_singleton_self v⟩
  | none =>
    have hunclaimed : v ∉ Resource.claimed (t.entriesAt path) := by
      rw [mem_claimed_iff h, hverb]
      exact Bool.false_ne_true
    have hv : v ∈ Resource.verbsFor (Resource.claimed (t.entriesAt path)) none :=
      List.contains_iff_mem.mp (Resource.contains_verbsFor.mpr (Or.inr ⟨rfl, hunclaimed⟩))
    exact ⟨⟨_, e⟩, (mem_mountsAt h).mpr ⟨⟨none, hget, rfl⟩, List.ne_nil_of_mem hv⟩, hv⟩

/-- An entry for every verb is left none exactly if each of them has an entry of its own. -/
theorem not_mem_mountsAt_iff (h : t.InOrder) (hget : t.get? ⟨none, path⟩ = some e) :
    ⟨Resource.remaining (Resource.claimed (t.entriesAt path)), e⟩ ∉ t.mountsAt path ↔
      ∀ v, (t.get? ⟨some v, path⟩).isSome = true := by
  have hentry : ∃ verb, t.get? ⟨verb, path⟩ = some e ∧
      Resource.remaining (Resource.claimed (t.entriesAt path)) =
        Resource.verbsFor (Resource.claimed (t.entriesAt path)) verb := ⟨none, hget, rfl⟩
  rw [mem_mountsAt h, and_iff_right hentry, not_not, Resource.remaining, List.filter_eq_nil_iff]
  simp [mem_claimed_iff h, Verb.mem_all, Option.isSome_iff_ne_none]

theorem mountsAt_ne_nil (h : t.InOrder) (hpath : path ∈ t.paths) : t.mountsAt path ≠ [] := by
  obtain ⟨verb, e, hget⟩ := mem_paths_iff.mp hpath
  cases verb with
  | some v => exact List.ne_nil_of_mem (mem_mountsAt_of_verb h hget)
  | none =>
    obtain ⟨m, hm, -⟩ := exists_mem_mountsAt h hget .get
    exact List.ne_nil_of_mem hm

/-- The slots of a path can be filled, and each is, with the entry for its verb, or else with the
one for every method. -/
theorem exists_assemble? (h : t.InOrder) (hpath : path ∈ t.paths) :
    ∃ s, Slots.assemble? (t.namedEntriesAt path) = some (some s) ∧
      ∀ v, s v = (t.get? ⟨some v, path⟩).or (t.get? ⟨none, path⟩) := by
  have hfree : ∀ m ∈ (t.entriesAt path).map fun e =>
      (⟨Resource.verbsFor (Resource.claimed (t.entriesAt path)) e.1, e.2⟩ : Mount α),
      ∀ v ∈ m.verbs, (none : Option (Slots α)).bind (· v) = none := fun _ _ _ _ => rfl
  obtain ⟨filled, hfilled, hslots, hsome⟩ := Slots.exists_foldlM_add?
    (Resource.pairwise_disjoint (pairwise_entriesAt h path)) hfree
  obtain ⟨m, hm⟩ := List.exists_mem_of_ne_nil _ (mountsAt_ne_nil h hpath)
  obtain ⟨⟨e, he, hmount⟩, hverbs⟩ := Resource.mem_mountsOf.mp hm
  obtain ⟨s, rfl⟩ := Option.isSome_iff_exists.mp
    (hsome.mpr (Or.inr ⟨m, List.mem_map.mpr ⟨e, he, hmount⟩, hverbs⟩))
  refine ⟨s, by rw [namedEntriesAt, Slots.assemble?_name]; exact hfilled, fun v => ?_⟩
  rw [← first?_entriesAt, ← first?_entriesAt, ← Resource.find?_map_verbsFor]
  exact hslots v

/-- How the slots of a path are filled. -/
structure Fills (t : Routes α) (path : String) : Prop where
  /-- An entry is mounted for some verb, -/
  nonempty : ∀ m ∈ t.mountsAt path, m.verbs ≠ []
  /-- and for none that another is mounted for. -/
  disjoint : (t.mountsAt path).Pairwise fun m n => m.verbs.Disjoint n.verbs
  /-- An entry for a method has its method back from the name, and answers this one alone. -/
  own : ∀ v e, t.get? ⟨some v, path⟩ = some e →
    Verb.ofName? v.name = some v ∧ ⟨[v], e⟩ ∈ t.mountsAt path
  /-- Beside an entry for every method no verb is left over. -/
  every : ∀ e, t.get? ⟨none, path⟩ = some e → ∀ v, ∃ m ∈ t.mountsAt path, v ∈ m.verbs
  /-- It is left out exactly if all verbs have entries of their own. -/
  leftOut_iff : ∀ e, t.get? ⟨none, path⟩ = some e →
    (⟨Resource.remaining (Resource.claimed (t.entriesAt path)), e⟩ ∉ t.mountsAt path ↔
      ∀ v, (t.get? ⟨some v, path⟩).isSome = true)
  /-- The slots can be filled, each with an entry as it is, protected or not. -/
  filled : ∃ s, Slots.assemble? (t.namedEntriesAt path) = some (some s) ∧
    ∀ v, s v = (t.get? ⟨some v, path⟩).or (t.get? ⟨none, path⟩)
  /-- The path is mounted, and every router answers there as the slots do. -/
  mounted : t.mountsAt path ≠ [] ∧ ∀ router, t.router? = some router →
    ∃ r ∈ router, r.path = path ∧ r.mounts = t.mountsAt path ∧
      ∀ v, r.slot? v = (t.get? ⟨some v, path⟩).or (t.get? ⟨none, path⟩)

theorem fills_of_inOrder (h : t.InOrder) (hpath : path ∈ t.paths) : t.Fills path where
  nonempty _ hm := ((mem_mountsAt h).mp hm).2
  disjoint := (Resource.pairwise_disjoint (pairwise_entriesAt h path)).filter _
  own v _ hget := ⟨v.ofName?_name, mem_mountsAt_of_verb h hget⟩
  every _ hget := exists_mem_mountsAt h hget
  leftOut_iff _ hget := not_mem_mountsAt_iff h hget
  filled := exists_assemble? h hpath
  mounted := by
    refine ⟨mountsAt_ne_nil h hpath, fun router hrouter => ?_⟩
    obtain ⟨r, hr, hresource⟩ := exists_mem_router hrouter hpath
    have hslot := slot?_eq hresource
    obtain ⟨template, -, rfl⟩ := Option.map_eq_some_iff.mp hresource
    exact ⟨_, hr, rfl, rfl, hslot⟩

end Routes

end Gatehouse
