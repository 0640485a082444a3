import Gatehouse.Proofs.Route.Dispatch
import Mathlib.Data.List.Pairwise

/-!
# Paths without parameters

A path that is a template of its own characters is matched by that template, and any other that
matches it has a parameter where the two first differ (`Template.precedes_of_matchesPath`). So its
own resource is chosen for it, whatever else a router has (`Router.resource?_of_literal`), and a
request for it is answered by the entries of this path (`Routes.dispatch_of_literal`).
-/

namespace Gatehouse

/-! ## Templates of characters -/

namespace Template

/-- The template in which each character of a path stands for itself. -/
def literals (path : List Char) : Template :=
  path.map .literal

/-- A literal template matches its own path. -/
theorem matchesPath_literals : ∀ path : List Char, matchesPath (literals path) path = true
  | [] => rfl
  | c :: path => by
    rw [literals, List.map_cons, matchesPath, beq_self_eq_true, Bool.true_and]
    exact matchesPath_literals path

/-- The template of the characters goes before the others that match. -/
theorem precedes_of_matchesPath : ∀ {t : Template} {path : List Char},
    t.matchesPath path = true → t = literals path ∨ (literals path).precedes t = true
  | [], path, h => by
    obtain rfl := List.isEmpty_iff.mp h
    exact Or.inl rfl
  | .literal c :: ps, [], h => by cases h
  | .literal c :: ps, d :: path, h => by
    rw [matchesPath, Bool.and_eq_true, beq_iff_eq] at h
    obtain ⟨rfl, h⟩ := h
    rcases precedes_of_matchesPath h with rfl | h
    · exact Or.inl rfl
    · refine Or.inr ?_
      rw [literals, List.map_cons, precedes, beq_self_eq_true, Bool.true_and]
      exact h
  | .parameter _ :: ps, [], h => by cases h
  | .parameter _ :: ps, d :: path, _ => Or.inr rfl
  | .rest _ :: ps, [], h => by cases h
  | .rest _ :: ps, d :: path, _ => Or.inr rfl

/-- Nothing goes before the template of the characters. -/
theorem precedes_literals : ∀ (t : Template) (path : List Char), t.precedes (literals path) = false
  | [], path => by cases path <;> rfl
  | .literal c :: ps, [] => rfl
  | .literal c :: ps, d :: path => by
    rw [literals, List.map_cons, precedes, Bool.and_eq_false_iff]
    exact Or.inr (precedes_literals ps path)
  | .parameter _ :: ps, path => by cases path <;> rfl
  | .rest _ :: ps, path => by cases path <;> rfl

/-- Literal templates conflict only if they are equal. -/
theorem conflicts_literals_iff : ∀ {p q : List Char},
    conflicts (literals p) (literals q) = true ↔ p = q
  | [], [] => iff_of_true rfl rfl
  | [], d :: q => iff_of_false nofun nofun
  | c :: p, [] => iff_of_false nofun nofun
  | c :: p, d :: q => by
    have hrest := conflicts_literals_iff (p := p) (q := q)
    rw [literals, literals] at hrest ⊢
    rw [List.map_cons, List.map_cons, conflicts, Bool.and_eq_true, beq_iff_eq, hrest,
      List.cons.injEq]

theorem compatible_iff : ∀ {ts : List Template},
    compatible ts = true ↔ ts.Pairwise fun t u => conflicts t u = false
  | [] => iff_of_true rfl List.Pairwise.nil
  | t :: ts => by
    rw [compatible, Bool.and_eq_true, Bool.not_eq_true', List.any_eq_false, List.pairwise_cons,
      compatible_iff]
    simp only [Bool.not_eq_true]

end Template

/-! ## The resource of a path -/

namespace Router

variable {α : Type} {router : Router α}

/-- Out of resources that match a path, one with the template of its characters is chosen if there
is one. -/
theorem template_foremost {path : List Char} : ∀ {others : List (Resource α)} {r : Resource α},
    (∀ s ∈ r :: others, s.template.matchesPath path = true) →
      (∃ s ∈ r :: others, s.template = Template.literals path) →
        (foremost r others).template = Template.literals path
  | [], r, _, hex => by
    obtain ⟨s, hs, htemplate⟩ := hex
    obtain rfl := List.mem_singleton.mp hs
    exact htemplate
  | s :: others, r, hmatch, hex => by
    rw [foremost, List.foldl_cons]
    refine template_foremost (fun u hu => ?_) ?_
    · -- What is chosen of the first two is one of them.
      refine hmatch u ?_
      rcases List.mem_cons.mp hu with rfl | hu
      · split_ifs
        · exact List.mem_cons_of_mem _ List.mem_cons_self
        · exact List.mem_cons_self
      · exact List.mem_cons_of_mem _ (List.mem_cons_of_mem _ hu)
    · obtain ⟨u, hu, htemplate⟩ := hex
      rcases List.mem_cons.mp hu with rfl | hu
      · rw [htemplate, Template.precedes_literals]
        exact ⟨u, List.mem_cons_self, htemplate⟩
      · rcases List.mem_cons.mp hu with rfl | hu
        · rcases Template.precedes_of_matchesPath (hmatch r List.mem_cons_self) with hr | hr
          · refine ⟨_, List.mem_cons_self, ?_⟩
            split_ifs
            · exact htemplate
            · exact hr
          · rw [htemplate, hr]
            exact ⟨u, List.mem_cons_self, htemplate⟩
        · exact ⟨u, List.mem_cons_of_mem _ hu, htemplate⟩

/-- Two resources of a router do not have one template of characters. -/
theorem eq_of_template {path : List Char}
    (hcompatible : Template.compatible (router.map Resource.template) = true)
    {r s : Resource α} (hr : r ∈ router) (hs : s ∈ router)
    (hrt : r.template = Template.literals path) (hst : s.template = Template.literals path) :
    r = s := by
  have hpairwise : router.Pairwise fun r s =>
      ¬(r.template = Template.literals path ∧ s.template = Template.literals path) := by
    refine (List.pairwise_map.mp (Template.compatible_iff.mp hcompatible)).imp ?_
    rintro r s hconflict ⟨hr, hs⟩
    rw [hr, hs, Template.conflicts_literals_iff.mpr rfl] at hconflict
    cases hconflict
  by_contra hne
  have hsymm : Std.Symm fun r s : Resource α =>
      ¬(r.template = Template.literals path ∧ s.template = Template.literals path) :=
    ⟨fun _ _ h hswap => h hswap.symm⟩
  exact hpairwise.forall hr hs hne ⟨hrt, hst⟩

/-- The resource with the template of a path's own characters is the one for the path. -/
theorem resource?_of_literal
    (hcompatible : Template.compatible (router.map Resource.template) = true)
    {r : Resource α} (hr : r ∈ router) {path : String}
    (htemplate : r.template = Template.literals path.toList) :
    router.resource? path = some r := by
  have hmem : r ∈ router.filter fun s => s.template.matchesPath path.toList := by
    refine List.mem_filter.mpr ⟨hr, ?_⟩
    rw [htemplate]
    exact Template.matchesPath_literals path.toList
  rw [resource?]
  cases hfilter : router.filter fun s => s.template.matchesPath path.toList with
  | nil =>
    rw [hfilter] at hmem
    cases hmem
  | cons s others =>
    rw [hfilter] at hmem
    have hsub : ∀ u ∈ s :: others, u ∈ router ∧ u.template.matchesPath path.toList = true := by
      intro u hu
      rw [← hfilter] at hu
      exact List.mem_filter.mp hu
    have hforemost := template_foremost (fun u hu => (hsub u hu).2) ⟨r, hmem, htemplate⟩
    have heq := eq_of_template hcompatible (hsub _ (foremost_mem s others)).1 hr hforemost htemplate
    exact congrArg some heq

end Router

namespace Routes

variable {α : Type} {t : Routes α} {router : Router α} {path : String}

theorem mem_paths_of_get? {verb : Option Verb} {e : Route α}
    (h : t.get? ⟨verb, path⟩ = some e) : path ∈ t.paths := by
  rw [paths, List.mem_eraseDups]
  exact List.mem_map.mpr ⟨_, mem_of_get? h, rfl⟩

/-- The entry for a verb is put before all others. -/
theorem answer?_of_get? {v : Verb} {e : Route α} (h : t.get? ⟨some v, path⟩ = some e) :
    t.answer? path v = some e := by
  rw [answer?, h]
  rfl

theorem exists_mem_of_answer? {v : Verb} {e : Route α} (h : t.answer? path v = some e) :
    ∃ verb, (⟨verb, path⟩, e) ∈ t := by
  rw [answer?] at h
  cases hverb : t.get? ⟨some v, path⟩ with
  | some e' =>
    rw [hverb] at h
    exact ⟨_, mem_of_get? (hverb.trans h)⟩
  | none =>
    rw [hverb] at h
    cases hevery : t.get? ⟨none, path⟩ with
    | some e' =>
      rw [hevery] at h
      exact ⟨_, mem_of_get? (hevery.trans h)⟩
    | none =>
      rw [hevery] at h
      split_ifs at h with hhead
      · exact ⟨_, mem_of_get? h⟩
      · cases h

theorem mem_paths_of_answer? {v : Verb} {e : Route α} (h : t.answer? path v = some e) :
    path ∈ t.paths := by
  obtain ⟨verb, hmem⟩ := exists_mem_of_answer? h
  rw [paths, List.mem_eraseDups]
  exact List.mem_map.mpr ⟨_, hmem, rfl⟩

/-- A path without parameters has a resource of its own. -/
theorem resource?_eq_of_literal (h : t.router? = some router) (hpath : path ∈ t.paths)
    (htemplate : Template.ofPath? path = some (Template.literals path.toList)) :
    router.resource? path =
      some ⟨path, Template.literals path.toList, Resource.mountsOf (t.entriesAt path)⟩ := by
  obtain ⟨-, hcompatible⟩ := Option.filter_eq_some_iff.mp h
  obtain ⟨r, hr, hresource⟩ := exists_mem_router h hpath
  obtain ⟨template, htemplate', rfl⟩ := Option.map_eq_some_iff.mp hresource
  obtain rfl := Option.some.inj (htemplate.symm.trans htemplate')
  exact Router.resource?_of_literal hcompatible hr rfl

/-- A request for a path without parameters is answered by the entries of this path. -/
theorem dispatch_of_literal (h : t.router? = some router) (hpath : path ∈ t.paths)
    (htemplate : Template.ofPath? path = some (Template.literals path.toList)) {v : Verb}
    {e : Route α} (hanswer : t.answer? path v = some e) :
    ∃ resource, router.dispatch v.name path = .entry resource e := by
  refine ⟨⟨path, Template.literals path.toList, Resource.mountsOf (t.entriesAt path)⟩, ?_⟩
  rw [dispatch_eq h, resource?_eq_of_literal h hpath htemplate]
  simp only [hanswer]

end Routes

end Gatehouse
