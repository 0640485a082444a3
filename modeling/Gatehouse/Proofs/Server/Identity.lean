import Gatehouse.Proofs.Server.Gate
import Gatehouse.Proofs.Token.Order

/-!
# Claims in circulation

Claims come into a program by verifying a text, with a secret or by a codec, and into a handler by
the gate, which passes on what its codec has verified (`Route.reply_of_protected`). So what is known
of the order of verified claims is known of all of them (`Token.orders_of_accepted`), and what is
not checked of them is not checked anywhere.
-/

namespace Gatehouse

/-! ## Identities -/

/-- An entry behind the gate is called with the claims of an accepted text, or not at all. -/
theorem Route.reply_of_protected {e : Route Handler} (hprotected : e.isProtected = true)
    (c : Call) :
    (∃ refusal, e.reply c = (Reply.refusal refusal).after [Gate.event c.request (.error refusal)]) ∨
      ∃ text claims, Bearer.extract c.request.headers = some text ∧
        c.service.codec.verify text c.moment.systemNow = .ok claims ∧
          e.reply c = (e.handler { c with identity := some claims }).after
            [Gate.event c.request (.ok claims)] := by
  cases hcheck : Gate.check c.service.codec c.moment.systemNow c.request.headers with
  | error refusal => exact Or.inl ⟨refusal, reply_of_refused hprotected hcheck⟩
  | ok claims =>
    have hreply := reply_of_passed hprotected hcheck
    rw [Gate.check] at hcheck
    cases htext : Bearer.extract c.request.headers with
    | none =>
      rw [htext] at hcheck
      cases hcheck
    | some text =>
      simp only [htext] at hcheck
      cases hverify : c.service.codec.verify text c.moment.systemNow with
      | error e =>
        rw [hverify] at hcheck
        cases hcheck
      | ok found =>
        rw [hverify] at hcheck
        obtain rfl := Except.ok.inj hcheck
        exact Or.inr ⟨text, found, rfl, hverify, hreply⟩

namespace Token

/-- Claims come into circulation at an instant by a secret, by a codec, or by the gate of a service
with the codec. How their instants are ordered is settled by the text alone, in the same way. -/
theorem orders_of_accepted (codec : TokenCodec) (systemNow : Instant) :
    (∀ text secret c, verify text secret systemNow = .ok c → Orders text secret systemNow c) ∧
    (∀ text c, codec.verify text systemNow = .ok c →
      Orders text codec.secret (codec.clock.now systemNow) c) ∧
    ∀ (e : Route Handler) (call : Call), e.isProtected = true → call.service.codec = codec →
      call.moment.systemNow = systemNow →
        (∃ refusal, e.reply call =
          (Reply.refusal refusal).after [Gate.event call.request (.error refusal)]) ∨
        ∃ text c, Bearer.extract call.request.headers = some text ∧
          e.reply call = (e.handler { call with identity := some c }).after
            [Gate.event call.request (.ok c)] ∧
          Orders text codec.secret (codec.clock.now systemNow) c := by
  refine ⟨fun text secret c => orders_of_verify, fun text c => orders_of_verify, ?_⟩
  rintro e call hprotected rfl rfl
  rcases Route.reply_of_protected hprotected call with hrefused | ⟨text, c, htext, hverify, hreply⟩
  · exact Or.inl hrefused
  · exact Or.inr ⟨text, c, htext, hreply, orders_of_verify hverify⟩

/-- The claims of the visitor are in order, and those that are issued later are accepted as well. -/
theorem orders_of_accepted_visit :
    visit.IsOrdered ∧ ∃ text, verify text [7] ⟨30, 0⟩ = .ok lateVisit := by
  obtain ⟨hsecret, -, -⟩ := orders_of_accepted ⟨[7], "gatehouse", 1, .system⟩ ⟨30, 0⟩
  have horders := hsecret _ _ _ verify_visit
  exact ⟨horders.ordered.mpr (by decide), horders.unchecked 100 (by decide)⟩

end Token

end Gatehouse
