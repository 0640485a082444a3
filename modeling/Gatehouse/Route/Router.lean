import Gatehouse.Route.Table
import Gatehouse.Route.Template

/-!
# Routers

A table becomes a router path by path. On a path every entry is given the verbs that it
answers: its own one, or, without a method, all that the others leave (`Resource.mounts`).
There is a router only if all paths are templates and no two of them conflict
(`Routes.router?`).

A request goes to the resource whose template matches its path and goes before the others
that do, and there to the entry that answers its method; `HEAD` falls back on the entry for
`GET` (`Router.dispatch`). A method that is no verb is answered by none.
-/

namespace Gatehouse

/-- An entry and the verbs that it answers. -/
structure Mount (α : Type) where
  verbs : List Verb
  entry : Route α
deriving Repr, DecidableEq

/-- A path and what is mounted there. -/
structure Resource (α : Type) where
  path : String
  template : Template
  mounts : List (Mount α)
deriving Repr, DecidableEq

namespace Resource

variable {α : Type}

/-- The verbs that have entries of their own. -/
def claimed (entries : List (Option Verb × Route α)) : List Verb :=
  entries.filterMap Prod.fst

/-- The verbs that are not claimed. -/
def remaining (claimed : List Verb) : List Verb :=
  Verb.all.filter fun v => !claimed.contains v

/-- The verbs for an entry beside claimed ones. -/
def verbsFor (claimed : List Verb) : Option Verb → List Verb
  | some v => [v]
  | none => remaining claimed

/-- The entries that have verbs to answer, in order. -/
def mountsOf (entries : List (Option Verb × Route α)) : List (Mount α) :=
  (entries.map fun e => ⟨verbsFor (claimed entries) e.1, e.2⟩).filter fun m =>
    !m.verbs.isEmpty

/-- The entry that answers a verb. -/
def slot? (r : Resource α) (v : Verb) : Option (Route α) :=
  (r.mounts.find? fun m => m.verbs.contains v).map Mount.entry

/-- The entry that answers a method. -/
def entry? (r : Resource α) (method : String) : Option (Route α) :=
  match Verb.ofName? method with
  | none => none
  | some .head => r.slot? .head <|> r.slot? .get
  | some v => r.slot? v

/-! ## Allowed methods -/

/-- The order in which methods are listed. -/
def listingOrder : List Verb :=
  [.get, .head, .trace, .put, .post, .patch, .options, .delete]

/-- The methods that an entry with some verbs allows. `GET` brings `HEAD` along. -/
def allowedBy (verbs : List Verb) : List String :=
  let verbs := if verbs.contains .get then .head :: verbs else verbs
  (listingOrder.filter verbs.contains).map Verb.name

/-- The methods that are allowed, entry by entry. -/
def allow (r : Resource α) : String :=
  ",".intercalate (r.mounts.flatMap fun m => allowedBy m.verbs)

end Resource

/-! ## Routers -/

/-- The resources of a table. -/
abbrev Router (α : Type) := List (Resource α)

namespace Routes

variable {α : Type}

/-- The resource at a path, if the path is a template. -/
def resource? (t : Routes α) (path : String) : Option (Resource α) :=
  (Template.ofPath? path).map fun template =>
    ⟨path, template, Resource.mountsOf (t.entriesAt path)⟩

/-- The router of a table, if there is one. -/
def router? (t : Routes α) : Option (Router α) :=
  (t.paths.mapM t.resource?).filter fun r => Template.compatible (r.map Resource.template)

end Routes

/-- Where a request goes. -/
inductive Dispatch (α : Type)
  | unmatched
  | refused (resource : Resource α)
  | entry (resource : Resource α) (entry : Route α)

namespace Router

variable {α : Type}

/-- The resource whose template goes before the others, out of one and others. -/
def foremost (r : Resource α) (others : List (Resource α)) : Resource α :=
  others.foldl (fun r s => if s.template.precedes r.template then s else r) r

/-- The resource for a path. -/
def resource? (r : Router α) (path : String) : Option (Resource α) :=
  match r.filter fun s => s.template.matchesPath path.toList with
  | [] => none
  | s :: others => some (foremost s others)

/-- Where a request with a method and a path goes. -/
def dispatch (r : Router α) (method path : String) : Dispatch α :=
  match r.resource? path with
  | none => .unmatched
  | some s =>
    match s.entry? method with
    | none => .refused s
    | some e => .entry s e

end Router

end Gatehouse
