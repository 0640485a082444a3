/-!
# Steps that may fail

A computation of several steps has a result if all of its steps have one. `bind_eq_ok_iff` and
`map_eq_ok_iff` take such a computation apart, and put it together again, step by step. Two
computations whose steps go alike go alike (`GoAlike.bind`).
-/

namespace Gatehouse

variable {ε α β : Type} {x : Except ε α} {b : β}

/-- Two steps succeed exactly if the first does, and the second for what it gives. -/
theorem bind_eq_ok_iff {f : α → Except ε β} :
    (x >>= f) = .ok b ↔ ∃ a, x = .ok a ∧ f a = .ok b := by
  constructor
  · intro h
    cases x with
    | error e => cases h
    | ok a => exact ⟨a, rfl, h⟩
  · rintro ⟨a, rfl, h⟩
    exact h

theorem map_eq_ok_iff {f : α → β} : x.map f = .ok b ↔ ∃ a, x = .ok a ∧ f a = b := by
  cases x <;> simp [Except.map]

theorem map_toOption_eq_some_iff {f : α → β} :
    x.toOption.map f = some b ↔ ∃ a, x = .ok a ∧ f a = b := by
  cases x <;> simp [Except.toOption]

/-- Two computations fail alike, by the same error, or have results that are related. -/
def GoAlike {α' : Type} (R : α → α' → Prop) (x : Except ε α) (y : Except ε α') : Prop :=
  (∃ e, x = .error e ∧ y = .error e) ∨ ∃ a b, x = .ok a ∧ y = .ok b ∧ R a b

namespace GoAlike

variable {α' β' : Type} {R : α → α' → Prop} {S : β → β' → Prop} {y : Except ε α'}
  {f : α → Except ε β} {g : α' → Except ε β'}

theorem ok {a : α} {b : α'} (h : R a b) : GoAlike R (.ok a : Except ε α) (.ok b) :=
  Or.inr ⟨a, b, rfl, rfl, h⟩

theorem of_ok {a : α} {b : α'} (h : GoAlike R x y) (hx : x = .ok a) (hy : y = .ok b) : R a b := by
  subst hx hy
  rcases h with ⟨e, he, -⟩ | ⟨a', b', ha, hb, hab⟩
  · cases he
  · obtain rfl := Except.ok.inj ha
    obtain rfl := Except.ok.inj hb
    exact hab

/-- Steps that go alike, one after another, go alike. -/
theorem bind (h : GoAlike R x y) (hf : ∀ a b, R a b → GoAlike S (f a) (g b)) :
    GoAlike S (x >>= f) (y >>= g) := by
  rcases h with ⟨e, rfl, rfl⟩ | ⟨a, b, rfl, rfl, hab⟩
  · exact Or.inl ⟨e, rfl, rfl⟩
  · exact hf a b hab

/-- A step that is the same in both is taken with one result. -/
theorem bind_same {x' : Except ε α} {g : α → Except ε β'} (h : x = x')
    (hf : ∀ a, GoAlike S (f a) (g a)) : GoAlike S (x >>= f) (x' >>= g) := by
  subst h
  cases x with
  | error e => exact Or.inl ⟨e, rfl, rfl⟩
  | ok a => exact hf a

end GoAlike

end Gatehouse
