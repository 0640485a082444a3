import Gatehouse.Proofs.Page
import Gatehouse.Proofs.Server.Gate

/-!
# Pages of a server

A page that has been registered is what its route answers with, to whomever and whenever
(`Registration.IsPage.reply`). Together with what the text of a page tells (`Page.html_inj`) and
does not let in (`Page.not_mem_escape`), this is all that is sent of it (`Server.respond_page`).
-/

namespace Gatehouse

/-- A registration is that of a page. -/
def Registration.IsPage (r : Registration) (p : Page) : Prop :=
  r = rootPage p ∨ ∃ pattern, r = page pattern p

theorem Registration.IsPage.reply {r : Registration} {p : Page} (h : r.IsPage p) (c : Call)
    (limit : Span) : ((r.route.reply c).within limit).response = .html .ok p.html := by
  rcases h with rfl | ⟨pattern, rfl⟩
  · rw [Reply.within_of_delay rfl]
    rfl
  · rw [Reply.within_of_delay rfl]
    rfl

namespace Server

/-- Whatever is written in HTML is read back as it was, holds no bracket and no quotation mark, and
no ampersand that does not begin an entity. So all pages have the marks of one template, and two
pages are the same text only if they show the same. And whatever has been registered, and whatever
the service is by the time of a request : one that is dispatched to an entry is answered by the last
registration for it, and if this is that of a page, with exactly this page. -/
theorem respond_page :
    (∀ text, Page.unescape (Page.escape text) = text ∧
      (∀ c ∈ Page.reserved, c ∉ Page.escape text) ∧
      ∀ rest, '&' :: rest <:+ Page.escape text →
        ∃ entity ∈ Page.entities, entity <+: '&' :: rest) ∧
    (∀ p : Page, p.html.filter Page.isMark = Page.template.filter Page.isMark) ∧
    (∀ p q : Page, p.html = q.html ↔ p = q) ∧
    ∀ {σ : Type} [MeasureSink σ] {plan : ServerPlan σ} {now : Instant} {s : Server σ}
      {events : List LogEvent} {rs : List Registration} {router : Router Handler},
      plan.build now = .ok (s, events) → (s.registerEach rs).router? = some router →
      ∀ (service : Service) (m : Moment) (r : Request) (resource : Resource Handler)
        (e : Route Handler), router.dispatch r.method r.path = .entry resource e →
          ∃ v last, r.method = Verb.name v ∧
            Registration.answering? (defaultRoutes ++ rs) resource.path v = some last ∧
            e = last.route ∧
            ∀ p, last.IsPage p → ∃ reply,
              (({ s.registerEach rs with service } : Server σ).respond m r).map Prod.fst =
                  some reply ∧
                reply.response = .html .ok p.html ∧
                (r.method ≠ "HEAD" → reply.response.bodyFor r.method = String.ofList p.html) := by
  refine ⟨fun text => ⟨Page.unescape_escape text, fun c hc => Page.not_mem_escape hc text,
    fun rest => Page.exists_entity_of_suffix⟩, Page.filter_isMark_html, fun p q => Page.html_inj,
    fun {σ _ plan now s events rs router} h hrouter service m r resource e hentry => ?_⟩
  obtain ⟨v, last, hmethod, hlast, rfl⟩ := exists_of_dispatch_entry h hrouter hentry
  refine ⟨v, last, hmethod, hlast, rfl, fun p hpage => ?_⟩
  set server : Server σ := { s.registerEach rs with service }
  have hserver : server.router? = some router := hrouter
  have hresponse : (server.reply (router.dispatch r.method r.path) m r).response =
      .html .ok p.html := by
    rw [hentry]
    exact hpage.reply (server.call m r) server.requestTimeout
  refine ⟨_, map_fst_respond hserver m r, hresponse, fun hhead => ?_⟩
  rw [hresponse, Response.bodyFor, if_neg hhead]
  rfl

/-- A history of one page, whose title is not what it looks like. -/
def pageHistory : List Registration :=
  [Registration.page "GET /hello" ⟨"<b>", "Hello World!"⟩]

/-- A page whose title holds a tag is shown with none. -/
theorem respond_page_small : ∃ reply,
    (respond { small.registerEach pageHistory with service := small.service }
        ⟨Instant.epoch, "t", "r", none, ⟨0⟩⟩ ⟨"GET", "/hello", [], []⟩).map Prod.fst = some reply ∧
      reply.response.bodyFor "GET" = String.ofList (Page.html ⟨"<b>", "Hello World!"⟩) := by
  obtain ⟨events, hbuild⟩ := build_small
  have hsome : (small.registerEach pageHistory).router?.isSome = true := by decide +kernel
  obtain ⟨router, hrouter⟩ := Option.isSome_iff_exists.mp hsome
  have hpath : (((small.registerEach pageHistory).router?.getD []).resource? "/hello").map
      Resource.path = some "/hello" := by decide +kernel
  rw [hrouter, Option.getD_some] at hpath
  obtain ⟨resource, hresource, hpath⟩ := Option.map_eq_some_iff.mp hpath
  have hlast : Registration.answering? (defaultRoutes ++ pageHistory) resource.path .get =
      some (Registration.page "GET /hello" ⟨"<b>", "Hello World!"⟩) := by
    rw [hpath]
    rfl
  have hdispatch := dispatch_of_build hbuild hrouter .get "/hello"
  simp only [hresource, hlast] at hdispatch
  have hroute : (Request.path ⟨"GET", "/hello", [], []⟩) = "/hello" := by decide
  rw [← hroute] at hdispatch
  obtain ⟨v, last, hv, hanswer, -, hpage⟩ := respond_page.2.2.2 hbuild hrouter small.service
    ⟨Instant.epoch, "t", "r", none, ⟨0⟩⟩ ⟨"GET", "/hello", [], []⟩ resource _ hdispatch
  obtain rfl : .get = v := Option.some.inj (Verb.ofName?_eq_some_iff.mpr hv)
  obtain rfl := Option.some.inj (hlast.symm.trans hanswer)
  obtain ⟨reply, hreply, -, hbody⟩ := hpage _ (Or.inr ⟨"GET /hello", rfl⟩)
  exact ⟨reply, hreply, hbody (by decide)⟩

end Server

end Gatehouse
