import Gatehouse.Route.Table
import Mathlib.Data.String.Basic

/-!
# Tables in order

The patterns of a table stand in a strict total order, by paths and on one path by the names of
methods (`RoutePattern.before_trans`, `RoutePattern.before_or_before`). `Routes.insert` keeps a
table in this order (`Routes.inOrder_insert`), so a table is known by its entries
(`Routes.eq_of_get?_eq`) : whoever has the same entry for every pattern is the same table.
-/

namespace Gatehouse

/-! ## The order of patterns -/

theorem Verb.name_ne_empty (v : Verb) : v.name ≠ "" := by
  cases v <;> decide

namespace RoutePattern

variable {p q r : RoutePattern}

/-- Patterns are in order of their paths, and on one path of the names of their verbs. -/
theorem before_iff : p.before q = true ↔
    p.path < q.path ∨ p.path = q.path ∧ p.verbName < q.verbName := by
  simp [before]

theorem before_irrefl (p : RoutePattern) : ¬p.before p = true := by
  rw [before_iff]
  rintro (h | ⟨-, h⟩)
  · exact String.lt_irrefl _ h
  · exact String.lt_irrefl _ h

theorem before_trans (hpq : p.before q = true) (hqr : q.before r = true) :
    p.before r = true := by
  rw [before_iff] at hpq hqr ⊢
  rcases hpq with hpq | ⟨hpq, hverb⟩
  · rcases hqr with hqr | ⟨hqr, -⟩
    · exact Or.inl (String.lt_trans hpq hqr)
    · exact Or.inl (hqr ▸ hpq)
  · rw [hpq]
    rcases hqr with hqr | ⟨hqr, hverb'⟩
    · exact Or.inl hqr
    · exact Or.inr ⟨hqr, String.lt_trans hverb hverb'⟩

/-- A method, or none, is known by its name. -/
theorem verb_eq_of_verbName (h : p.verbName = q.verbName) : p.verb = q.verb := by
  obtain ⟨v, path⟩ := p
  obtain ⟨w, path'⟩ := q
  cases v with
  | none =>
    cases w with
    | none => rfl
    | some w => exact absurd h.symm (Verb.name_ne_empty w)
  | some v =>
    cases w with
    | none => exact absurd h (Verb.name_ne_empty v)
    | some w =>
      have hname := congrArg Verb.ofName? (show v.name = w.name from h)
      rwa [Verb.ofName?_name, Verb.ofName?_name] at hname

theorem before_or_before (h : p ≠ q) : p.before q = true ∨ q.before p = true := by
  rw [before_iff, before_iff]
  by_cases hpath : p.path = q.path
  · have hne : p.verbName ≠ q.verbName := by
      intro hname
      have hverb := verb_eq_of_verbName hname
      obtain ⟨v, path⟩ := p
      obtain ⟨w, path'⟩ := q
      exact h (by rw [show v = w from hverb, show path = path' from hpath])
    rcases lt_or_gt_of_ne hne with hlt | hlt
    · exact Or.inl (Or.inr ⟨hpath, hlt⟩)
    · exact Or.inr (Or.inr ⟨hpath.symm, hlt⟩)
  · exact (lt_or_gt_of_ne hpath).imp Or.inl Or.inl

end RoutePattern

/-! ## Tables -/

namespace Routes

variable {α : Type} {t u : Routes α} {p : RoutePattern} {e : Route α}

/-- Every pattern stands before those behind it. -/
def InOrder (t : Routes α) : Prop :=
  t.Pairwise fun r s => r.1.before s.1 = true

theorem get?_cons (q : RoutePattern) (f : Route α) (t : Routes α) (p : RoutePattern) :
    get? ((q, f) :: t) p = if q = p then some f else get? t p := by
  by_cases h : q = p <;> simp [get?, h]

/-- A pattern has what was inserted last for it. -/
theorem get?_insert (p q : RoutePattern) (e : Route α) (t : Routes α) :
    (insert p e t).get? q = if p = q then some e else t.get? q := by
  split_ifs with h
  · rw [← h, get?_insert_self]
  · exact get?_insert_of_ne (Ne.symm h) e t

theorem mem_of_get? (h : t.get? p = some e) : (p, e) ∈ t := by
  obtain ⟨r, hr, rfl⟩ := Option.map_eq_some_iff.mp h
  have hp : r.1 = p := by simpa using List.find?_some hr
  rw [← hp]
  exact List.mem_of_find?_eq_some hr

/-- In a table in order a pattern has no entry but its own. -/
theorem get?_of_mem : ∀ {t : Routes α}, t.InOrder → (p, e) ∈ t → t.get? p = some e
  | (q, f) :: t, h, hmem => by
    obtain ⟨hhead, htail⟩ := List.pairwise_cons.mp h
    rw [get?_cons]
    rcases List.mem_cons.mp hmem with heq | hmem
    · obtain ⟨rfl, rfl⟩ := Prod.mk.inj heq
      rw [if_pos rfl]
    · have hne : q ≠ p := by
        rintro rfl
        exact RoutePattern.before_irrefl q (hhead _ hmem)
      rw [if_neg hne]
      exact get?_of_mem htail hmem

theorem mem_insert {r : RoutePattern × Route α} : ∀ {t : Routes α},
    r ∈ insert p e t → r = (p, e) ∨ r ∈ t
  | [], h => Or.inl (List.mem_singleton.mp h)
  | (q, f) :: t, h => by
    rw [insert] at h
    split_ifs at h
    · exact (List.mem_cons.mp h).imp_right (List.mem_cons_of_mem _)
    · exact List.mem_cons.mp h
    · rcases List.mem_cons.mp h with rfl | h
      · exact Or.inr List.mem_cons_self
      · exact (mem_insert h).imp_right (List.mem_cons_of_mem _)

theorem inOrder_insert : ∀ {t : Routes α}, t.InOrder → (insert p e t).InOrder
  | [], _ => List.pairwise_singleton _ _
  | (q, f) :: t, h => by
    obtain ⟨hhead, htail⟩ := List.pairwise_cons.mp h
    rw [insert]
    split_ifs with heq hbefore
    · subst heq
      exact List.pairwise_cons.mpr ⟨hhead, htail⟩
    · refine List.pairwise_cons.mpr ⟨fun r hr => ?_, h⟩
      rcases List.mem_cons.mp hr with rfl | hr
      · exact hbefore
      · exact RoutePattern.before_trans hbefore (hhead r hr)
    · refine List.pairwise_cons.mpr ⟨fun r hr => ?_, inOrder_insert htail⟩
      rcases mem_insert hr with rfl | hr
      · exact (RoutePattern.before_or_before heq).resolve_left hbefore
      · exact hhead r hr

/-- The first pattern of a table has no entry behind it. -/
theorem get?_tail {q : RoutePattern} {f : Route α} (h : InOrder ((q, f) :: t)) :
    t.get? q = none := by
  cases hq : t.get? q with
  | none => rfl
  | some g =>
    have hmem := (List.pairwise_cons.mp h).1 _ (mem_of_get? hq)
    exact absurd hmem (RoutePattern.before_irrefl q)

/-- A pattern that another table has in front cannot stand behind in this one. -/
theorem before_of_get? {q : RoutePattern} {f : Route α} (h : InOrder ((q, f) :: t)) (hne : q ≠ p)
    (hp : get? ((q, f) :: t) p = some e) : q.before p = true := by
  rw [get?_cons, if_neg hne] at hp
  exact (List.pairwise_cons.mp h).1 _ (mem_of_get? hp)

/-- A table in order is known by its entries. -/
theorem eq_of_get?_eq : ∀ {t u : Routes α}, t.InOrder → u.InOrder →
    (∀ p, t.get? p = u.get? p) → t = u
  | [], [], _, _, _ => rfl
  | [], (q, f) :: u, _, _, h => by
    have hq := h q
    rw [get?_cons, if_pos rfl] at hq
    cases hq
  | (q, f) :: t, [], _, _, h => by
    have hq := h q
    rw [get?_cons, if_pos rfl] at hq
    cases hq
  | (p, e) :: t, (q, f) :: u, ht, hu, h => by
    have hpq : p = q := by
      by_contra hne
      have hq : get? ((p, e) :: t) q = some f := by rw [h q, get?_cons, if_pos rfl]
      have hp : get? ((q, f) :: u) p = some e := by rw [← h p, get?_cons, if_pos rfl]
      have hbefore := before_of_get? ht hne hq
      have hbehind := before_of_get? hu (Ne.symm hne) hp
      exact RoutePattern.before_irrefl p (RoutePattern.before_trans hbefore hbehind)
    subst hpq
    have hef : e = f := by
      have hp := h p
      rw [get?_cons, get?_cons, if_pos rfl, if_pos rfl] at hp
      exact Option.some.inj hp
    have htu : t = u := by
      refine eq_of_get?_eq (List.pairwise_cons.mp ht).2 (List.pairwise_cons.mp hu).2 fun r => ?_
      by_cases hr : p = r
      · rw [← hr, get?_tail ht, get?_tail hu]
      · have hr' := h r
        rwa [get?_cons, get?_cons, if_neg hr, if_neg hr] at hr'
    rw [hef, htu]

end Routes

end Gatehouse
