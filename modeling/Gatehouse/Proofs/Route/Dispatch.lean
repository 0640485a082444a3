import Gatehouse.Proofs.Route.Table
import Gatehouse.Route.Router
import Mathlib.Data.List.Find

/-!
# Where requests go

A router is made of the resources of its table (`Routes.exists_of_mem_router`), and a resource
answers a verb by the entries of the table for its path alone : by the one for the verb, or the one
for every method, or, for `HEAD`, the one for `GET` (`Routes.answer?`). What a resource mounts
besides, and in which order, is of no account (`Routes.slot?_eq`). So is the rest of the table for
the dispatch of a request, once the resource is chosen (`Routes.dispatch_eq`).
-/

namespace Gatehouse

/-! ## The mounts of a resource -/

namespace Resource

variable {α : Type}

/-- The first of the entries of a path that is for a verb, or for every method. -/
def first? (entries : List (Option Verb × Route α)) (verb : Option Verb) : Option (Route α) :=
  (entries.find? fun e => e.1 = verb).map Prod.snd

theorem mem_claimed {entries : List (Option Verb × Route α)} {v : Verb} :
    v ∈ claimed entries ↔ ∃ e ∈ entries, e.1 = some v :=
  List.mem_filterMap

/-- An entry answers its own verb, or, for every method, the verbs that are not claimed. -/
theorem contains_verbsFor {claimed : List Verb} {verb : Option Verb} {v : Verb} :
    (verbsFor claimed verb).contains v = true ↔ verb = some v ∨ verb = none ∧ v ∉ claimed := by
  cases verb with
  | some w => simp [verbsFor, eq_comm]
  | none => simp [verbsFor, remaining, Verb.mem_all]

theorem find?_mountsOf (entries : List (Option Verb × Route α)) (v : Verb) :
    ((mountsOf entries).find? fun m => m.verbs.contains v).map Mount.entry =
      (entries.find? fun e => (verbsFor (claimed entries) e.1).contains v).map Prod.snd := by
  rw [mountsOf, List.find?_filter, List.find?_map, Option.map_map]
  have hpred : (fun m : Mount α => decide ((!m.verbs.isEmpty) = true ∧ m.verbs.contains v = true)) =
      fun m => m.verbs.contains v := by
    funext m
    cases hm : m.verbs <;> simp
  rw [hpred]
  rfl

/-- An entry for every method is passed over where there is one for the verb. -/
theorem find?_mountsOf_eq (entries : List (Option Verb × Route α)) (v : Verb) :
    ((mountsOf entries).find? fun m => m.verbs.contains v).map Mount.entry =
      (first? entries (some v)).or (first? entries none) := by
  have hcontains : ∀ e : Option Verb × Route α, (verbsFor (claimed entries) e.1).contains v =
      decide (e.1 = some v ∨ e.1 = none ∧ v ∉ claimed entries) := fun e => by
    rw [Bool.eq_iff_iff, contains_verbsFor, decide_eq_true_eq]
  rw [find?_mountsOf, first?, first?]
  by_cases hv : v ∈ claimed entries
  · have hfind : (entries.find? fun e => (verbsFor (claimed entries) e.1).contains v) =
        entries.find? fun e => e.1 = some v := by
      refine List.find?_congr fun e _ => ?_
      rw [hcontains]
      simp [hv]
    rw [hfind]
    cases hnone : entries.find? fun e => e.1 = some v with
    | some e => rfl
    | none =>
      obtain ⟨e, he, heq⟩ := mem_claimed.mp hv
      have := List.find?_eq_none.mp hnone e he
      simp [heq] at this
  · have hfind : (entries.find? fun e => (verbsFor (claimed entries) e.1).contains v) =
        entries.find? fun e => e.1 = none := by
      refine List.find?_congr fun e he => ?_
      have hne : e.1 ≠ some v := fun heq => hv (mem_claimed.mpr ⟨e, he, heq⟩)
      rw [hcontains]
      simp [hv, hne]
    have hnone : (entries.find? fun e => e.1 = some v) = none := by
      rw [List.find?_eq_none]
      intro e he
      have hne : e.1 ≠ some v := fun heq => hv (mem_claimed.mpr ⟨e, he, heq⟩)
      simp [hne]
    rw [hfind, hnone, Option.map_none, Option.none_or]

/-- A resource answers `HEAD` by its own entry for it, or else by that for `GET`. -/
theorem entry?_name (r : Resource α) (v : Verb) :
    r.entry? v.name = if v = .head then r.slot? .head <|> r.slot? .get else r.slot? v := by
  unfold entry?
  rw [Verb.ofName?_name]
  cases v <;> rfl

/-- No entry answers a method that is none of the verbs. -/
theorem entry?_of_ofName? {method : String} (h : Verb.ofName? method = none) (r : Resource α) :
    r.entry? method = none := by
  unfold entry?
  rw [h]

end Resource

/-! ## The resources of a table -/

namespace Routes

variable {α : Type} {t : Routes α} {path : String} {r : Resource α} {router : Router α}

theorem first?_entriesAt (path : String) (verb : Option Verb) : ∀ t : Routes α,
    Resource.first? (t.entriesAt path) verb = t.get? ⟨verb, path⟩
  | [] => rfl
  | (q, f) :: t => by
    have ih := first?_entriesAt path verb t
    obtain ⟨w, path'⟩ := q
    rw [get?_cons, ← ih]
    by_cases hpath : path' = path
    · by_cases hverb : w = verb <;>
        simp [entriesAt, Resource.first?, hpath, hverb]
    · simp [entriesAt, Resource.first?, hpath]

/-- A resource answers a verb by the entries of its path. -/
theorem slot?_eq (h : t.resource? path = some r) (v : Verb) :
    r.slot? v = (t.get? ⟨some v, r.path⟩).or (t.get? ⟨none, r.path⟩) := by
  obtain ⟨template, -, rfl⟩ := Option.map_eq_some_iff.mp h
  rw [Resource.slot?, Resource.find?_mountsOf_eq, first?_entriesAt, first?_entriesAt]

/-- The entry of a table that answers a verb at a path. -/
def answer? (t : Routes α) (path : String) (v : Verb) : Option (Route α) :=
  t.get? ⟨some v, path⟩ <|> t.get? ⟨none, path⟩ <|>
    if v = .head then t.get? ⟨some .get, path⟩ else none

/-- A resource of the router answers as the table does. -/
theorem entry?_eq (h : t.resource? path = some r) (v : Verb) :
    r.entry? v.name = t.answer? r.path v := by
  rw [Resource.entry?_name, answer?, slot?_eq h, slot?_eq h, slot?_eq h]
  split_ifs with hv
  · subst hv
    cases t.get? ⟨some .head, r.path⟩ <;> cases t.get? ⟨none, r.path⟩ <;>
      cases t.get? ⟨some .get, r.path⟩ <;> rfl
  · cases t.get? ⟨some v, r.path⟩ <;> cases t.get? ⟨none, r.path⟩ <;> rfl

theorem map_eq_of_mapM {β : Type} {f : β → Option (Resource α)} :
    ∀ {xs : List β} {rs : List (Resource α)}, xs.mapM f = some rs → xs.map f = rs.map some
  | [], rs, h => by
    obtain rfl := Option.some.inj h
    rfl
  | x :: xs, rs, h => by
    rw [List.mapM_cons] at h
    obtain ⟨r, hx, h⟩ := Option.bind_eq_some_iff.mp h
    obtain ⟨rs', hxs, h⟩ := Option.bind_eq_some_iff.mp h
    obtain rfl := Option.some.inj h
    rw [List.map_cons, List.map_cons, hx, map_eq_of_mapM hxs]

/-- The router has one resource for each path, and in their order. -/
theorem map_resource?_eq (h : t.router? = some router) :
    t.paths.map t.resource? = router.map some :=
  map_eq_of_mapM (Option.filter_eq_some_iff.mp h).1

/-- A router holds resources of its table. -/
theorem exists_of_mem_router (h : t.router? = some router) (hr : r ∈ router) :
    ∃ path, t.resource? path = some r := by
  have hmem : some r ∈ t.paths.map t.resource? := by
    rw [map_resource?_eq h]
    exact List.mem_map_of_mem hr
  obtain ⟨path, -, hpath⟩ := List.mem_map.mp hmem
  exact ⟨path, hpath⟩

/-- A router has a resource for every path of its table. -/
theorem exists_mem_router (h : t.router? = some router) (hpath : path ∈ t.paths) :
    ∃ r ∈ router, t.resource? path = some r := by
  have hmem : t.resource? path ∈ router.map some := by
    rw [← map_resource?_eq h]
    exact List.mem_map_of_mem hpath
  obtain ⟨r, hr, heq⟩ := List.mem_map.mp hmem
  exact ⟨r, hr, heq.symm⟩

end Routes

namespace Router

variable {α : Type} {router : Router α} {r : Resource α}

theorem foremost_mem (r : Resource α) : ∀ others : List (Resource α),
    foremost r others ∈ r :: others
  | [] => List.mem_singleton_self r
  | s :: others => by
    have ih := foremost_mem (if s.template.precedes r.template then s else r) others
    rw [foremost, List.foldl_cons]
    rcases List.mem_cons.mp ih with h | h
    · rw [foremost] at h
      rw [h]
      split_ifs
      · exact List.mem_cons_of_mem _ List.mem_cons_self
      · exact List.mem_cons_self
    · exact List.mem_cons_of_mem _ (List.mem_cons_of_mem _ h)

/-- The resource for a path is one of the router. -/
theorem mem_of_resource? {path : String} (h : router.resource? path = some r) : r ∈ router := by
  rw [resource?] at h
  split at h
  · cases h
  · rename_i s others hfilter
    obtain rfl := Option.some.inj h
    have hmem := foremost_mem s others
    rw [← hfilter] at hmem
    exact (List.mem_filter.mp hmem).1

end Router

/-- A request goes to the resource for its path, and there to what the table has for its verb. -/
theorem Routes.dispatch_eq {α : Type} {t : Routes α} {router : Router α}
    (h : t.router? = some router) (v : Verb) (path : String) :
    router.dispatch v.name path =
      match router.resource? path with
      | none => .unmatched
      | some r =>
        match t.answer? r.path v with
        | none => .refused r
        | some e => .entry r e := by
  rw [Router.dispatch]
  cases hr : router.resource? path with
  | none => rfl
  | some r =>
    obtain ⟨path', hpath⟩ := Routes.exists_of_mem_router h (Router.mem_of_resource? hr)
    have hentry := Routes.entry?_eq hpath v
    cases hanswer : t.answer? r.path v with
    | none => simp only [hentry, hanswer]
    | some e => simp only [hentry, hanswer]

/-! ## What a request goes to -/

/-- A request is unmatched for want of a resource alone, and not of a method. -/
theorem Router.dispatch_eq_unmatched_iff {α : Type} {router : Router α} {method path : String} :
    router.dispatch method path = .unmatched ↔ router.resource? path = none := by
  rw [dispatch]
  cases router.resource? path with
  | none => exact iff_of_true rfl rfl
  | some r => cases hentry : r.entry? method <;> simp [hentry]

/-- Only a request for a verb goes to an entry. -/
theorem Router.exists_ofName?_of_dispatch {α : Type} {router : Router α} {method path : String}
    {r : Resource α} {e : Route α} (h : router.dispatch method path = .entry r e) :
    ∃ v, Verb.ofName? method = some v := by
  cases hv : Verb.ofName? method with
  | some v => exact ⟨v, rfl⟩
  | none =>
    rw [dispatch] at h
    cases hresource : router.resource? path with
    | none =>
      simp only [hresource] at h
      cases h
    | some r =>
      simp only [hresource, Resource.entry?_of_ofName? hv] at h
      cases h

end Gatehouse
