import Gatehouse.Proofs.Route.Pattern
import Gatehouse.Proofs.Server.History
import Gatehouse.Proofs.Text.Quoted
import Mathlib.Data.List.Nodup

/-!
# The routes that a server shows

The diagnostic text of a server lists the patterns of its table, between square brackets and with
commas between them (`Server.debug_eq`). These are the patterns that have been registered
(`Server.mem_keys_of_build`), in order and each once, by texts that are read as the same patterns
(`Server.ofString_text_of_build`), also from between the quotes. So none of them is mistaken for
another (`Server.nodup_quoted_of_build`, `Server.debug_of_history`).
-/

namespace Gatehouse

namespace Routes

variable {α : Type} {t : Routes α} {p : RoutePattern}

/-- The patterns that have an entry, as they stand in the table. -/
def keys (t : Routes α) : List RoutePattern :=
  t.map Prod.fst

theorem texts_eq (t : Routes α) : t.texts = t.keys.map RoutePattern.text := by
  rw [texts, keys, List.map_map]
  rfl

theorem mem_keys_iff : p ∈ t.keys ↔ (t.get? p).isSome = true := by
  simp [keys, get?, List.find?_isSome]

theorem InOrder.pairwise_keys (h : t.InOrder) : t.keys.Pairwise fun p q => p.before q = true :=
  List.pairwise_map.mpr h

/-- In a table that is in order no key stands twice. -/
theorem InOrder.nodup_keys (h : t.InOrder) : t.keys.Nodup := by
  refine h.pairwise_keys.imp fun {p q} hbefore heq => ?_
  rw [heq] at hbefore
  exact RoutePattern.before_irrefl q hbefore

end Routes

theorem Registration.isFor_iff {r : Registration} {p : RoutePattern} :
    r.isFor p = true ↔ RoutePattern.ofString r.pattern = .ok p := by
  rw [isFor]
  cases RoutePattern.ofString r.pattern <;> simp

namespace Server

variable {σ : Type} {plan : ServerPlan σ} {now : Instant} {s : Server σ} {events : List LogEvent}

/-- A pattern is in the table exactly if something has been registered for it. -/
theorem mem_keys_of_build (h : plan.build now = .ok (s, events)) {rs : List Registration}
    {p : RoutePattern} :
    p ∈ (s.registerEach rs).routes.keys ↔
      ∃ r ∈ defaultRoutes ++ rs, RoutePattern.ofString r.pattern = .ok p := by
  rw [Routes.mem_keys_iff, get?_of_build h, Option.isSome_map, Registration.last?,
    List.find?_isSome]
  simp only [List.mem_reverse, Registration.isFor_iff]

/-- Each key of a server is read back from its text. -/
theorem ofString_text_of_build (h : plan.build now = .ok (s, events)) {rs : List Registration}
    {p : RoutePattern} (hp : p ∈ (s.registerEach rs).routes.keys) :
    RoutePattern.ofString p.text = .ok p := by
  obtain ⟨_, -, hread⟩ := (mem_keys_of_build h).mp hp
  exact RoutePattern.ofString_text hread

/-- The patterns of a table are told apart by what is shown of them. -/
theorem nodup_quoted_of_build (h : plan.build now = .ok (s, events)) (rs : List Registration) :
    ((s.registerEach rs).routes.keys.map fun p => Text.quoted p.text).Nodup := by
  refine (inOrder_of_build h rs).nodup_keys.map_on fun p hp q hq heq => ?_
  have hread := ofString_text_of_build h hp
  have hread' := ofString_text_of_build h hq
  exact (RoutePattern.text_inj hread hread').mp (Text.quoted_inj.mp heq)

/-- The diagnostic text, written out. -/
theorem debug_eq (s : Server σ) :
    s.debug =
      "Server \x7b listen_addr: " ++ s.listen.text ++ ", routes: [" ++
        ", ".intercalate (s.routes.keys.map fun p => Text.quoted p.text) ++
        "], shutdown_timeout: " ++ s.shutdownTimeout.debug ++ ", request_timeout: " ++
        s.requestTimeout.debug ++ ", .. \x7d" := by
  have hitems : s.routes.texts.map Text.quoted =
      s.routes.keys.map fun p => Text.quoted p.text := by
    rw [Routes.texts_eq, List.map_map]
    rfl
  rw [debug, hitems, Text.openRecord, Text.listing, ← String.toList_inj]
  simp

/-- A text is read as a pattern exactly if it spells it; what is then written is read as the same
pattern and written as it was, and patterns that have been read are written alike only if they are
equal. So after any history the diagnostic text of a server lists the patterns that have been
registered in order, each once, and each by a text between quotes that is read as this pattern. -/
theorem debug_of_history :
    (∀ text p, RoutePattern.ofString text = .ok p ↔
      RoutePattern.Spells (Text.Blank.trim text.toList) p) ∧
    (∀ text p, RoutePattern.ofString text = .ok p →
      RoutePattern.ofString p.text = .ok p ∧
        (RoutePattern.ofString p.text).map RoutePattern.text = .ok p.text) ∧
    (∀ text text' p q, RoutePattern.ofString text = .ok p →
      RoutePattern.ofString text' = .ok q → (p.text = q.text ↔ p = q)) ∧
    ∀ {σ : Type} {plan : ServerPlan σ} {now : Instant} {s : Server σ} {events : List LogEvent},
      plan.build now = .ok (s, events) → ∀ rs : List Registration, ∃ keys : List RoutePattern,
        (s.registerEach rs).debug =
          "Server \x7b listen_addr: " ++ s.listen.text ++ ", routes: [" ++
            ", ".intercalate (keys.map fun p => Text.quoted p.text) ++
            "], shutdown_timeout: " ++ s.shutdownTimeout.debug ++ ", request_timeout: " ++
            s.requestTimeout.debug ++ ", .. \x7d" ∧
        (∀ p, p ∈ keys ↔ ∃ r ∈ defaultRoutes ++ rs, RoutePattern.ofString r.pattern = .ok p) ∧
        keys.Pairwise (fun p q => p.before q = true) ∧
        (keys.map fun p => Text.quoted p.text).Nodup ∧
        ∀ p ∈ keys, Text.unquoted? (Text.quoted p.text) = some p.text ∧
          RoutePattern.ofString p.text = .ok p := by
  refine ⟨fun text p => RoutePattern.ofString_eq_ok_iff, fun text p hp => ?_,
    fun text text' p q => RoutePattern.text_inj, fun {σ plan now s events} h rs =>
      ⟨(s.registerEach rs).routes.keys, ?_, fun p => mem_keys_of_build h,
        (inOrder_of_build h rs).pairwise_keys, nodup_quoted_of_build h rs,
        fun p hp => ⟨Text.unquoted?_quoted p.text, ofString_text_of_build h hp⟩⟩⟩
  · have hread := RoutePattern.ofString_text hp
    exact ⟨hread, by rw [hread]; rfl⟩
  · rw [debug_eq, registerEach_eq rs s]

/-- A history that registers for one pattern twice, by other white space, and fails once. -/
def listedHistory : List Registration :=
  [⟨"\tGET\u3000 /hello\n", Handler.health, false⟩, ⟨"GET /hello", Handler.showClaims, true⟩,
    ⟨"get /hello", Handler.health, false⟩]

/-- The server of this history shows seven patterns, among them the one that has been registered
twice. -/
theorem debug_listed :
    (small.registerEach listedHistory).debug =
      "Server \x7b listen_addr: 0.0.0.0:9999, routes: [\"GET /health\", \"GET /hello\", " ++
        "\"POST /login\", \"GET /metrics\", \"GET /readiness\", \"GET /time\", " ++
        "\"GET /version\"], shutdown_timeout: 2s, request_timeout: 30s, .. \x7d" := by
  have hkeys : (small.registerEach listedHistory).routes.keys =
      [⟨some .get, "/health"⟩, ⟨some .get, "/hello"⟩, ⟨some .post, "/login"⟩,
        ⟨some .get, "/metrics"⟩, ⟨some .get, "/readiness"⟩, ⟨some .get, "/time"⟩,
        ⟨some .get, "/version"⟩] := by
    decide +kernel
  have hbare : (small.registerEach listedHistory).routes.keys.all (fun p =>
      p.text.toList.all Text.isBare) = true := by
    rw [hkeys]
    decide +kernel
  have hquoted : ∀ p ∈ (small.registerEach listedHistory).routes.keys,
      Text.quoted p.text = "\"" ++ p.text ++ "\"" := fun p hp =>
    Text.quoted_of_isBare (List.all_eq_true.mp hbare p hp)
  rw [debug_eq, List.map_congr_left hquoted, hkeys]
  decide +kernel

/-- A pattern with a wide blank is listed with a narrow one, and every key in its place. -/
theorem debug_of_history_small :
    RoutePattern.Spells "GET\u3000 /hello".toList ⟨some .get, "/hello"⟩ ∧
      RoutePattern.ofString (RoutePattern.text ⟨some .get, "/hello"⟩) =
        .ok ⟨some .get, "/hello"⟩ ∧
      (small.registerEach listedHistory).debug =
        "Server \x7b listen_addr: 0.0.0.0:9999, routes: [\"GET /health\", \"GET /hello\", " ++
          "\"POST /login\", \"GET /metrics\", \"GET /readiness\", \"GET /time\", " ++
          "\"GET /version\"], shutdown_timeout: 2s, request_timeout: 30s, .. \x7d" ∧
      ∃ keys : List RoutePattern, ⟨some .get, "/hello"⟩ ∈ keys ∧
        (small.registerEach listedHistory).debug =
          "Server \x7b listen_addr: " ++ small.listen.text ++ ", routes: [" ++
            ", ".intercalate (keys.map fun p => Text.quoted p.text) ++
            "], shutdown_timeout: " ++ small.shutdownTimeout.debug ++ ", request_timeout: " ++
            small.requestTimeout.debug ++ ", .. \x7d" ∧
        (keys.map fun p => Text.quoted p.text).Nodup := by
  obtain ⟨events, hbuild⟩ := build_small
  have hblank : RoutePattern.ofString "\tGET\u3000 /hello\n" = .ok ⟨some .get, "/hello"⟩ := by
    decide
  have hplain : RoutePattern.ofString "GET /hello" = .ok ⟨some .get, "/hello"⟩ := by decide
  obtain ⟨hspells, htext, hinj, hlisting⟩ := debug_of_history
  obtain ⟨keys, hdebug, hkeys, -, hnodup, -⟩ := hlisting hbuild listedHistory
  refine ⟨(hspells _ _).mp hblank, ?_, debug_listed, keys, ?_, hdebug, hnodup⟩
  · rw [(hinj _ _ _ _ hblank hplain).mpr rfl]
    exact (htext _ _ hplain).1
  · exact (hkeys _).mpr ⟨_, List.mem_append_right _ List.mem_cons_self, hblank⟩

end Server

end Gatehouse
