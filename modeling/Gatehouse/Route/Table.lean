import Gatehouse.Route.Pattern

/-!
# The table of routes

What has been registered, by pattern. A pattern has one entry, the last that was registered
for it, and the table is kept in order: by paths, and on one path the entry for every method
first and the others by the names of their methods (`RoutePattern.before`).
-/

namespace Gatehouse

/-- What answers a route, and whether it asks for a token first. -/
structure Route (α : Type) where
  handler : α
  isProtected : Bool
deriving Repr, DecidableEq

/-- The name that orders the patterns of one path. -/
def RoutePattern.verbName (p : RoutePattern) : String :=
  match p.verb with
  | none => ""
  | some v => v.name

/-- Whether a pattern stands before another in a table. -/
def RoutePattern.before (p q : RoutePattern) : Bool :=
  decide (p.path < q.path) || (p.path == q.path && decide (p.verbName < q.verbName))

/-- The entries of patterns, in order. -/
abbrev Routes (α : Type) := List (RoutePattern × Route α)

namespace Routes

variable {α : Type}

/-- The table with an entry for a pattern. -/
def insert (p : RoutePattern) (e : Route α) : Routes α → Routes α
  | [] => [(p, e)]
  | (q, f) :: rest =>
    if p = q then (p, e) :: rest
    else if p.before q then (p, e) :: (q, f) :: rest
    else (q, f) :: insert p e rest

/-- The entry for a pattern. -/
def get? (t : Routes α) (p : RoutePattern) : Option (Route α) :=
  (t.find? fun r => r.1 = p).map Prod.snd

/-- The texts of the patterns. -/
def texts (t : Routes α) : List String :=
  t.map fun r => r.1.text

/-- The paths, each once. -/
def paths (t : Routes α) : List String :=
  (t.map fun r => r.1.path).eraseDups

/-- The entries of a path, by what they are registered for. -/
def entriesAt (t : Routes α) (path : String) : List (Option Verb × Route α) :=
  t.filterMap fun r => if r.1.path = path then some (r.1.verb, r.2) else none

/-- A pattern has what is inserted for it. -/
theorem get?_insert_self (p : RoutePattern) (e : Route α) (t : Routes α) :
    (insert p e t).get? p = some e := by
  induction t with
  | nil => simp [insert, get?]
  | cons r rest ih =>
    obtain ⟨q, f⟩ := r
    unfold insert
    split
    · simp [get?]
    · rename_i h
      split
      · simp [get?]
      · simpa [get?, Ne.symm h] using ih

theorem get?_insert_of_ne {p q : RoutePattern} (h : q ≠ p) (e : Route α)
    (t : Routes α) : (insert p e t).get? q = t.get? q := by
  induction t with
  | nil => simp [insert, get?, Ne.symm h]
  | cons r rest ih =>
    obtain ⟨s, f⟩ := r
    unfold insert
    split
    · rename_i hs
      subst hs
      simp [get?, Ne.symm h]
    · split
      · simp [get?, Ne.symm h]
      · by_cases hs : s = q
        · simp [get?, hs]
        · simpa [get?, hs] using ih

end Routes

end Gatehouse
