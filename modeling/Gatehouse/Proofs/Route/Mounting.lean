import Gatehouse.Proofs.Route.Literal
import Mathlib.Data.List.Nodup

/-!
# Paths that fit together

A table has a router exactly if its paths can be mounted together (`Routes.isSome_router?_iff`) :
each of them is a template, and no two that differ conflict (`Template.Mountable`). This is settled
path by path : one more path leaves a router exactly if it fits among those that are there
(`Template.mountable_append_singleton`), which a path without braces and without marks of another
notation always does among others of its kind (`Template.mountable_of_isPlain`).
-/

namespace Gatehouse

namespace Template

/-! ## Conflicts -/

theorem conflicts_comm : ∀ t u : Template, conflicts t u = conflicts u t
  | [], [] => rfl
  | [], p :: ps => by cases p <;> rfl
  | p :: ps, [] => by cases p <;> rfl
  | .literal c :: ps, .literal d :: qs => by
    rw [conflicts, conflicts, conflicts_comm ps qs, Bool.beq_comm]
  | .literal _ :: _, .parameter _ :: _ => rfl
  | .literal _ :: _, .rest _ :: _ => rfl
  | .parameter _ :: _, .literal _ :: _ => rfl
  | .parameter _ :: ps, .parameter _ :: qs => by
    rw [conflicts, conflicts, conflicts_comm ps qs]
  | .parameter _ :: _, .rest _ :: _ => rfl
  | .rest _ :: _, .literal _ :: _ => rfl
  | .rest _ :: _, .parameter _ :: _ => rfl
  | .rest _ :: _, .rest _ :: _ => rfl

/-- A path that is a template, with which the template of no other path conflicts. -/
def Fits (path : String) (paths : List String) : Prop :=
  ∃ t, ofPath? path = some t ∧
    ∀ q ∈ paths, q ≠ path → ∀ u, ofPath? q = some u → conflicts t u = false

/-- Paths each of which fits among them. -/
def Mountable (paths : List String) : Prop :=
  ∀ path ∈ paths, Fits path paths

variable {path : String} {paths paths' : List String}

theorem Fits.of_subset (h : Fits path paths) (hsubset : ∀ q ∈ paths', q ∈ paths) :
    Fits path paths' := by
  obtain ⟨t, ht, hconflicts⟩ := h
  exact ⟨t, ht, fun q hq => hconflicts q (hsubset q hq)⟩

/-- Whether paths can be mounted depends on neither their order nor their number. -/
theorem mountable_congr (h : ∀ p, p ∈ paths' ↔ p ∈ paths) : Mountable paths' ↔ Mountable paths := by
  constructor
  · intro hpaths p hp
    exact (hpaths p ((h p).mpr hp)).of_subset fun q hq => (h q).mpr hq
  · intro hpaths p hp
    exact (hpaths p ((h p).mp hp)).of_subset fun q hq => (h q).mp hq

/-- One more path can be mounted if it fits among the others. -/
theorem mountable_append_singleton :
    Mountable (paths ++ [path]) ↔ Mountable paths ∧ Fits path paths := by
  constructor
  · intro h
    have hsubset : ∀ q ∈ paths, q ∈ paths ++ [path] := fun q => List.mem_append_left [path]
    exact ⟨fun p hp => (h p (hsubset p hp)).of_subset hsubset,
      (h path List.mem_concat_self).of_subset hsubset⟩
  · rintro ⟨hpaths, t, ht, hconflicts⟩ p hp
    rcases List.mem_append.mp hp with hp | hp
    · obtain ⟨u, hu, hothers⟩ := hpaths p hp
      refine ⟨u, hu, fun q hq hne v hv => ?_⟩
      rcases List.mem_append.mp hq with hq | hq
      · exact hothers q hq hne v hv
      · rw [List.mem_singleton.mp hq] at hne hv
        obtain rfl := Option.some.inj (ht.symm.trans hv)
        rw [conflicts_comm]
        exact hconflicts p hp hne.symm u hu
    · obtain rfl := List.mem_singleton.mp hp
      refine ⟨t, ht, fun q hq hne v hv => ?_⟩
      rcases List.mem_append.mp hq with hq | hq
      · exact hconflicts q hq hne v hv
      · exact absurd (List.mem_singleton.mp hq) hne

/-! ## Plain paths -/

/-- A path without braces, in which no colon and no star marks a parameter. -/
structure IsPlain (path : String) : Prop where
  noOpening : '\x7b' ∉ path.toList
  noClosing : '\x7d' ∉ path.toList
  unmarked : hasMark ('/' :: path.toList) = false

instance (path : String) : Decidable (IsPlain path) :=
  decidable_of_iff ('\x7b' ∉ path.toList ∧ '\x7d' ∉ path.toList ∧
      hasMark ('/' :: path.toList) = false)
    ⟨fun ⟨hopening, hclosing, hmark⟩ => ⟨hopening, hclosing, hmark⟩,
      fun ⟨hopening, hclosing, hmark⟩ => ⟨hopening, hclosing, hmark⟩⟩

theorem unescape_of_plain (text : List Char) :
    '\x7b' ∉ text → '\x7d' ∉ text → unescape text = text.map fun c => (c, false) := by
  fun_induction unescape text with
  | case1 text ih => exact fun h => absurd List.mem_cons_self h
  | case2 text ih => exact fun _ h => absurd List.mem_cons_self h
  | case3 c text _ _ ih =>
    intro hopening hclosing
    rw [List.mem_cons, not_or] at hopening hclosing
    rw [ih hopening.2 hclosing.2, List.map_cons]
  | case4 => exact fun _ _ => rfl

/-- Without braces a path is literal. -/
theorem readFrom_of_plain : ∀ {text : List Char}, '\x7b' ∉ text → '\x7d' ∉ text →
    readFrom none (text.map fun c => (c, false)) = some (literals text)
  | [], _, _ => rfl
  | c :: text, hopening, hclosing => by
    rw [List.mem_cons, not_or] at hopening hclosing
    rw [List.map_cons, readFrom, if_neg fun h => hclosing.1 h.1.symm,
      if_neg fun h => hopening.1 h.1.symm, readFrom_of_plain hopening.2 hclosing.2]
    rfl

theorem countP_isWild_literals (path : List Char) : (literals path).countP isWild = 0 := by
  rw [List.countP_eq_zero]
  intro p hp
  obtain ⟨c, -, rfl⟩ := List.mem_map.mp hp
  exact Bool.false_ne_true

/-- A plain path is the template of its characters. -/
theorem IsPlain.ofPath?_eq (h : IsPlain path) : ofPath? path = some (literals path.toList) := by
  rw [ofPath?, h.unmarked, unescape_of_plain _ h.noOpening h.noClosing,
    readFrom_of_plain h.noOpening h.noClosing, if_neg Bool.false_ne_true, Option.filter_some,
    countP_isWild_literals]
  rfl

/-- Plain paths can always be mounted together. -/
theorem mountable_of_isPlain (h : ∀ p ∈ paths, IsPlain p) : Mountable paths := by
  intro p hp
  refine ⟨_, (h p hp).ofPath?_eq, fun q hq hne u hu => ?_⟩
  obtain rfl := Option.some.inj ((h q hq).ofPath?_eq.symm.trans hu)
  rw [Bool.eq_false_iff, Ne, conflicts_literals_iff, String.toList_inj]
  exact hne.symm

end Template

/-! ## Routers -/

theorem nodup_eraseDups : ∀ l : List String, l.eraseDups.Nodup
  | [] => List.nodup_nil
  | a :: l => by
    rw [List.eraseDups_cons, List.nodup_cons, List.mem_eraseDups, List.mem_filter]
    exact ⟨fun h => by simp at h, nodup_eraseDups (l.filter fun b => !b == a)⟩
  termination_by l => l.length
  decreasing_by exact Nat.lt_succ_of_le (List.length_filter_le _ l)

theorem exists_mapM_of_forall {α β : Type} {f : α → Option β} : ∀ {l : List α},
    (∀ x ∈ l, ∃ y, f x = some y) → ∃ ys, l.mapM f = some ys
  | [], _ => ⟨[], rfl⟩
  | x :: l, h => by
    obtain ⟨⟨y, hy⟩, hl⟩ := List.forall_mem_cons.mp h
    obtain ⟨ys, hys⟩ := exists_mapM_of_forall hl
    exact ⟨y :: ys, by rw [List.mapM_cons, hy, hys]; rfl⟩

namespace Routes

variable {α : Type} {t : Routes α} {path : String}

theorem mem_paths_iff : path ∈ t.paths ↔ ∃ verb e, t.get? ⟨verb, path⟩ = some e := by
  constructor
  · intro h
    rw [paths, List.mem_eraseDups] at h
    obtain ⟨⟨⟨verb, path⟩, e⟩, hmem, rfl⟩ := List.mem_map.mp h
    have hfound : (t.find? fun r => r.1 = ⟨verb, path⟩).isSome = true :=
      List.find?_isSome.mpr ⟨_, hmem, decide_eq_true rfl⟩
    obtain ⟨r, hr⟩ := Option.isSome_iff_exists.mp hfound
    exact ⟨verb, r.2, by rw [get?, hr]; rfl⟩
  · rintro ⟨verb, e, h⟩
    exact mem_paths_of_get? h

theorem mem_paths_insert {p : RoutePattern} {e : Route α} :
    path ∈ (t.insert p e).paths ↔ path = p.path ∨ path ∈ t.paths := by
  simp only [mem_paths_iff, get?_insert]
  constructor
  · rintro ⟨verb, f, h⟩
    split_ifs at h with hp
    · exact Or.inl (congrArg RoutePattern.path hp).symm
    · exact Or.inr ⟨verb, f, h⟩
  · rintro (rfl | ⟨verb, f, h⟩)
    · exact ⟨p.verb, e, if_pos rfl⟩
    · by_cases hp : p = ⟨verb, path⟩
      · exact ⟨verb, e, if_pos hp⟩
      · exact ⟨verb, f, by rw [if_neg hp, h]⟩

/-- A resource of a table has the template of its path. -/
theorem ofPath?_of_resource? {r : Resource α} (h : t.resource? path = some r) :
    Template.ofPath? path = some r.template ∧ r.path = path := by
  obtain ⟨template, htemplate, rfl⟩ := Option.map_eq_some_iff.mp h
  exact ⟨htemplate, rfl⟩

/-- There is a router exactly if the paths can be mounted together. -/
theorem isSome_router?_iff : t.router?.isSome = true ↔ Template.Mountable t.paths := by
  constructor
  · intro h p hp
    obtain ⟨router, hrouter⟩ := Option.isSome_iff_exists.mp h
    obtain ⟨-, hcompatible⟩ := Option.filter_eq_some_iff.mp hrouter
    have hpairwise := List.pairwise_map.mp (Template.compatible_iff.mp hcompatible)
    have hsymm : Std.Symm fun r s : Resource α => r.template.conflicts s.template = false :=
      ⟨fun r s hrs => by rw [Template.conflicts_comm, hrs]⟩
    obtain ⟨r, hr, hresource⟩ := exists_mem_router hrouter hp
    obtain ⟨htemplate, hpath⟩ := ofPath?_of_resource? hresource
    refine ⟨r.template, htemplate, fun q hq hne u hu => ?_⟩
    obtain ⟨s, hs, hresource'⟩ := exists_mem_router hrouter hq
    obtain ⟨htemplate', hpath'⟩ := ofPath?_of_resource? hresource'
    obtain rfl := Option.some.inj (htemplate'.symm.trans hu)
    refine hpairwise.forall hr hs ?_
    rintro rfl
    exact hne (hpath'.symm.trans hpath)
  · intro h
    obtain ⟨router, hrouter⟩ : ∃ router, t.paths.mapM t.resource? = some router := by
      refine exists_mapM_of_forall fun p hp => ?_
      obtain ⟨template, htemplate, -⟩ := h p hp
      exact ⟨_, by rw [resource?, htemplate]; rfl⟩
    -- Of two paths of the table that stand at different places the templates do not conflict.
    have hpaths : (t.paths.map t.resource?).Pairwise fun a b =>
        ∀ r s, a = some r → b = some s → r.template.conflicts s.template = false := by
      refine List.pairwise_map.mpr (List.Nodup.pairwise_of_forall_ne (nodup_eraseDups _) ?_)
      intro p hp q hq hne r s hr hs
      obtain ⟨template, htemplate, hconflicts⟩ := h p hp
      obtain ⟨hr, -⟩ := ofPath?_of_resource? hr
      obtain ⟨hs, -⟩ := ofPath?_of_resource? hs
      obtain rfl := Option.some.inj (htemplate.symm.trans hr)
      exact hconflicts q hq hne.symm _ hs
    rw [map_eq_of_mapM hrouter, List.pairwise_map] at hpaths
    have hcompatible : Template.compatible (router.map Resource.template) = true :=
      Template.compatible_iff.mpr
        (List.pairwise_map.mpr (hpaths.imp fun hrs => hrs _ _ rfl rfl))
    rw [router?, hrouter, Option.filter_some, if_pos hcompatible]
    rfl

end Routes

end Gatehouse
