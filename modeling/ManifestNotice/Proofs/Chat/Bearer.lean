import ManifestNotice.Proofs.Chat.History

/-!
# Bearers

Over a whole run of a client, a message goes out with the token of the latest
exchange of credentials and no other, and that exchange was made in the same
call or its token is still good for more than half a minute
(`opened_by_latest`).
-/

namespace ManifestNotice.Chat.Client

open Http (Receipt)

theorem token_after (h : calls client actions { backend } = past ++ call :: future) :
    call.after.token = (client.latest? (past ++ [call])).map Exchange.token := by
  have hm : call ∈ client.calls actions { backend } :=
    h ▸ List.mem_append_right _ List.mem_cons_self
  rw [(recorded_of_mem hm).held, token_before h, latest?_concat, Option.or_none]
  cases client.exchange? call <;> rfl

/-- A message that goes out in a call after others: it bears the token of the
latest exchange, which was made in the call itself or is of a token that is
fresh at its start. -/
structure Bears (client : Client) (past : List Call) (call : Call) (request : Http.Request)
    (channel text : String) (exchange : Exchange) : Prop where
  action : call.action = .post channel text
  method : request.method = .post
  body : request.body = Utf8.encode (payload channel text).write
  latest : client.latest? (past ++ [call]) = some exchange
  bearer (value : String) :
    (Http.authorization, Http.bearer value) ∈ request.headers ↔ value = exchange.grant.token
  fresh : client.exchange? call = some exchange ∨
    client.exchange? call = none ∧
      call.before.backend.clock + 30 < exchange.readAt + exchange.lifetime

/-- What a run sends of its own accord, redirects aside: requests for a token,
and messages with the token of the latest exchange. -/
theorem opened_by_latest (client : Client) (actions : List Action) (backend : Http.Backend)
    (past future : List Call) (call : Call) (request : Http.Request) (reply : Http.Reply)
    (hc : client.calls actions { backend } = past ++ call :: future)
    (hr : Receipt.request request 0 reply ∈ call.arrivals) :
    (tokenRequest client.credentials = .ok request ∧
        ∀ channel text, request.body ≠ Utf8.encode (payload channel text).write) ∨
      ∃ channel text exchange, client.Bears past call request channel text exchange := by
  have hm : call ∈ client.calls actions { backend } :=
    hc ▸ List.mem_append_right _ List.mem_cons_self
  rcases (recorded_of_mem hm).opened hr with ht | ⟨channel, text, token, hact, hreq, hheld, horigin⟩
  · exact .inl ⟨ht, body_ne_payload ht⟩
  · right
    rw [token_after hc] at hheld
    obtain ⟨exchange, hlatest, rfl⟩ := Option.map_eq_some_iff.mp hheld
    refine ⟨channel, text, exchange, hact, messageRequest_method hreq, messageRequest_body hreq,
      hlatest, fun value => mem_bearer hreq, ?_⟩
    cases hx : client.exchange? call with
    | some own =>
      rw [latest?_concat, hx] at hlatest
      exact .inl hlatest
    | none =>
      rw [hx] at horigin
      rcases horigin with hfresh | hsome
      · exact .inr ⟨rfl, of_decide_eq_true (Option.filter_eq_some_iff.mp hfresh).2⟩
      · cases hsome

/-- A token of a minute is used again while half of it has not passed. -/
theorem reused_bears_latest :
    let client : Client := ⟨⟨"id", "secret", "http://h"⟩, fun _ => .answered⟩
    let grant := Utf8.ofString "\x7b\"access_token\":\"t\",\"expires_in\":60\x7d"
    let backend : Http.Backend :=
      { script := [{ status := 200, body := grant, delay := 2 }, { status := 200 }], clock := 1000 }
    let first := client.perform .authenticate { backend }
    let second := client.perform (.advance 29) first.after
    let third := client.perform (.post "c" "x") second.after
    let path := ["api", "http", "chats", "messages", "send-message"].map String.toList
    let url : Url := { scheme := "http".toList, host := some (.name ['h']), path := .segments path }
    let request := posting { url } (Http.bearer "t") "application/json" "application/json"
      (payloadBody "c" "x")
    third.arrivals = [.request request 0 { status := 200 }] ∧
      ∃ exchange, client.Bears [first, second] third request "c" "x" exchange := by
  intro client grant backend first second third path url request
  have ha : third.arrivals = [.request request 0 { status := 200 }] := by decide +kernel
  refine ⟨ha, ?_⟩
  rcases opened_by_latest client [.authenticate, .advance 29, .post "c" "x"] backend
    [first, second] [] third request _ rfl (ha ▸ List.mem_cons_self) with
    ⟨-, hb⟩ | ⟨channel, text, exchange, h⟩
  · exact absurd rfl (hb "c" "x")
  · cases h.action
    exact ⟨exchange, h⟩

end ManifestNotice.Chat.Client
