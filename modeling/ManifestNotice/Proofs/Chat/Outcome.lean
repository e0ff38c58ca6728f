import ManifestNotice.Proofs.Chat.History

/-!
# How calls end

The final reply of the stage that decides a call fixes how the call ends: that of
the exchange of credentials if that fails, and else that of the message
(`perform_ends`). The two stages have rules of their own: a broken body matters
only to an exchange, and a code of 400 or 403 speaks of the account only there.
-/

namespace ManifestNotice

open Http (Receipt Reply delays)

-- ---------------------------------------------------------------------------
-- Replies
-- ---------------------------------------------------------------------------

namespace Http

/-- Of a body that should come, not all does. -/
def Reply.Broken (reply : Reply) : Prop := reply.hasBody ∧ reply.cutShort

/-- The body, what is no UTF-8 in it replaced. -/
def Reply.words (reply : Reply) : String :=
  if reply.hasBody then Utf8.decodeLossy reply.body else ""

/-- The body, empty if not all of it comes. -/
def Reply.heard (reply : Reply) : String := if reply.cutShort then "" else reply.words

def finalReply? (clock : Nat) (arrived : List Receipt) : Option Reply :=
  answer? (clock + timeLimit) (clock + delays arrived) arrived

theorem Reply.text?_of_broken {reply : Reply} (h : reply.Broken) : reply.text? = none := by
  simp [text?, h.1, h.2]

theorem Reply.text?_of_not_broken {reply : Reply} (h : ¬ reply.Broken) :
    reply.text? = some reply.words := by
  unfold Broken at h
  unfold text? words
  cases hb : reply.hasBody with
  | false => rfl
  | true =>
    cases hc : reply.cutShort with
    | false => rfl
    | true => exact absurd ⟨hb, hc⟩ h

theorem Reply.text?_getD (reply : Reply) : reply.text?.getD "" = reply.heard := by
  unfold text? heard words
  cases reply.hasBody <;> cases reply.cutShort <;> rfl

end Http

namespace Chat

-- ---------------------------------------------------------------------------
-- Stages
-- ---------------------------------------------------------------------------

/-- How an exchange of credentials ends by its final reply, read at a time. -/
inductive ExchangeEnds (clock : Nat) : Option Reply → Except Fault Token → Prop
  | lost {cause} : ExchangeEnds clock none (.error (.network cause))
  | broken {reply} : reply.Broken → ExchangeEnds clock (some reply) (.error (.network .decoding))
  | granted {reply grant} : ¬ reply.Broken → reply.isSuccess →
      Grant.ofText reply.words.toList = .ok grant →
      ExchangeEnds clock (some reply) (.ok ⟨grant.token, Token.expiryAt clock grant.lifetime⟩)
  | malformed {reply fault} : ¬ reply.Broken → reply.isSuccess →
      Grant.ofText reply.words.toList = .error fault →
      ExchangeEnds clock (some reply)
        (.error (.auth ("malformed token response: " ++ fault.message reply.words.toList)))
  | refused {reply} : ¬ reply.Broken → reply.status ∈ [400, 401, 403] →
      ExchangeEnds clock (some reply) (.error (.auth (Refusal.explain reply.words)))
  | rejected {reply} : ¬ reply.Broken → reply.isSuccess = false →
      reply.status ∉ [400, 401, 403] →
      ExchangeEnds clock (some reply)
        (.error (.rejected reply.status (Refusal.explain reply.words)))

inductive MessageEnds : Option Reply → Except Fault Unit → Prop
  | lost {cause} : MessageEnds none (.error (.network cause))
  | taken {reply} : reply.isSuccess → MessageEnds (some reply) (.ok ())
  | refused {reply} : reply.status = 401 →
      MessageEnds (some reply) (.error (.auth (Refusal.explain reply.heard)))
  | rejected {reply} : reply.isSuccess = false → reply.status ≠ 401 →
      MessageEnds (some reply) (.error (.rejected reply.status (Refusal.explain reply.heard)))

theorem grantOf_ends (clock : Nat) (reply : Reply) :
    ExchangeEnds clock (some reply) ((grantOf reply).map fun grant =>
      ⟨grant.token, Token.expiryAt clock grant.lifetime⟩) := by
  unfold grantOf
  by_cases hb : reply.Broken
  · rw [Http.Reply.text?_of_broken hb]
    exact .broken hb
  · rw [Http.Reply.text?_of_not_broken hb]
    dsimp only
    cases hs : reply.isSuccess with
    | true =>
      rw [if_pos rfl]
      cases hg : Grant.ofText reply.words.toList with
      | ok grant => exact .granted hb hs hg
      | error fault => exact .malformed hb hs hg
    | false =>
      rw [if_neg Bool.false_ne_true]
      by_cases hm : reply.status ∈ [400, 401, 403]
      · rw [if_pos (by simpa [or_assoc] using hm)]
        exact .refused hb hm
      · rw [if_neg (by simpa [and_assoc] using hm)]
        exact .rejected hb hs hm

theorem acceptedBy_ends (reply : Reply) : MessageEnds (some reply) (acceptedBy reply) := by
  unfold acceptedBy
  cases hs : reply.isSuccess with
  | true => exact .taken hs
  | false =>
    rw [if_neg Bool.false_ne_true, Http.Reply.text?_getD]
    dsimp only
    by_cases hstatus : reply.status = 401
    · rw [if_pos (beq_iff_eq.mpr hstatus)]
      exact .refused hstatus
    · rw [if_neg (mt beq_iff_eq.mp hstatus)]
      exact .rejected hs hstatus

namespace Client

theorem asked_final (client : Client) (request : Except Http.Fault Http.Request)
    (before : Http.Backend) :
    ∃ arrived, Arrives request arrived ∧
      (client.asked request before).2.receipts = before.receipts ++ arrived ∧
      (client.asked request before).2.clock = before.clock + delays arrived ∧
      match (client.asked request before).1 with
      | .ok reply => Http.finalReply? before.clock arrived = some reply
      | .error fault => Http.finalReply? before.clock arrived = none ∧
          ∃ cause, fault = .network cause := by
  obtain ⟨arrived, h⟩ := asked_arrived client request before
  have hanswer := h.answer
  rw [h.clock] at hanswer
  refine ⟨arrived, h.arrives, h.receipts, h.clock, ?_⟩
  cases hr : (client.asked request before).1 with
  | ok reply =>
    rw [hr] at hanswer
    exact hanswer.symm
  | error fault =>
    rw [hr] at hanswer
    exact ⟨hanswer.symm, asked_error client request before hr⟩

-- ---------------------------------------------------------------------------
-- Calls
-- ---------------------------------------------------------------------------

/-- How a call comes by its token, and what arrives at the servers for it: a
fresh one is used as it is, and else credentials are exchanged. -/
inductive TokenEnds (client : Client) (before : Session) :
    Except Fault Token → List Receipt → Prop
  | fresh {token} : before.freshToken? = some token → TokenEnds client before (.ok token) []
  | exchanged {result arrived} : before.freshToken? = none →
      Arrives (tokenRequest client.credentials) arrived →
      ExchangeEnds (before.backend.clock + delays arrived)
        (Http.finalReply? before.backend.clock arrived) result →
      TokenEnds client before result arrived

/-- How a call ends, and what arrives at the servers during it. A post that comes
by no token ends with that fault and sends no message. -/
inductive CallEnds (client : Client) (before : Session) :
    Action → Except Fault Unit → List Receipt → Prop
  | advanced {seconds} : CallEnds client before (.advance seconds) (.ok ()) []
  | authenticated {token arrived} : TokenEnds client before token arrived →
      CallEnds client before .authenticate (token.map fun _ => ()) arrived
  | unsent {channel text fault arrived} : TokenEnds client before (.error fault) arrived →
      CallEnds client before (.post channel text) (.error fault) arrived
  | sent {channel text token arrived result later} : TokenEnds client before (.ok token) arrived →
      Arrives (messageRequest client.credentials.serverUrl token.value channel text) later →
      MessageEnds (Http.finalReply? (before.backend.clock + delays arrived) later) result →
      CallEnds client before (.post channel text) result (arrived ++ later)

theorem exchanged_ends (client : Client) (before : Http.Backend) :
    ∃ arrived, Arrives (tokenRequest client.credentials) arrived ∧
      (client.exchanged before).2.receipts = before.receipts ++ arrived ∧
      (client.exchanged before).2.clock = before.clock + delays arrived ∧
      ExchangeEnds (before.clock + delays arrived) (Http.finalReply? before.clock arrived)
        (client.exchanged before).1 := by
  obtain ⟨arrived, ha, hr, hc, hfinal⟩ := asked_final client (tokenRequest client.credentials) before
  refine ⟨arrived, ha, hr, hc, ?_⟩
  unfold exchanged
  rw [← hc]
  revert hfinal
  rcases client.asked (tokenRequest client.credentials) before with ⟨fault | reply, after⟩
  · rintro ⟨hfinal, cause, rfl⟩
    rw [hfinal]
    exact .lost
  · intro hfinal
    rw [hfinal]
    exact grantOf_ends after.clock reply

theorem token_ends (client : Client) (session : Session) :
    ∃ arrived,
      (client.token.run.run session).2.backend.receipts = session.backend.receipts ++ arrived ∧
      (client.token.run.run session).2.backend.clock = session.backend.clock + delays arrived ∧
      client.TokenEnds session (client.token.run.run session).1 arrived := by
  rw [token_run]
  cases hf : session.freshToken? with
  | some token => exact ⟨[], (List.append_nil _).symm, rfl, .fresh hf⟩
  | none =>
    obtain ⟨arrived, ha, hr, hc, hends⟩ := client.exchanged_ends session.backend
    exact ⟨arrived, hr, hc, .exchanged hf ha hends⟩

theorem message_ends (client : Client) (channel text : String) {session after : Session}
    {token : Token} (h : client.token.run.run session = (.ok token, after)) :
    ∃ later,
      (client.asked (messageRequest client.credentials.serverUrl token.value channel text)
        after.backend).2.receipts = after.backend.receipts ++ later ∧
      Arrives (messageRequest client.credentials.serverUrl token.value channel text) later ∧
      MessageEnds (Http.finalReply? after.backend.clock later)
        ((client.post channel text).run.run session).1 := by
  obtain ⟨later, ha, hr, -, hfinal⟩ := asked_final client
    (messageRequest client.credentials.serverUrl token.value channel text) after.backend
  refine ⟨later, hr, ha, ?_⟩
  rw [post_run, h]
  dsimp only
  revert hfinal
  cases (client.asked _ after.backend).1 with
  | error fault =>
    rintro ⟨hfinal, cause, rfl⟩
    rw [hfinal]
    exact .lost
  | ok reply =>
    intro hfinal
    rw [hfinal]
    exact acceptedBy_ends reply

/-- Authenticating fails exactly if credentials have to be exchanged and that
fails. -/
theorem authenticate_eq_error (client : Client) (session : Session) (fault : Fault) :
    (client.perform .authenticate session).result = .error fault ↔
      session.freshToken? = none ∧ (client.exchanged session.backend).1 = .error fault := by
  show (client.authenticate.run.run session).1 = _ ↔ _
  rw [authenticate_run, token_run]
  cases session.freshToken? with
  | some token => exact ⟨nofun, nofun⟩
  | none =>
    show (client.exchanged session.backend).1.map _ = _ ↔ _
    cases (client.exchanged session.backend).1 with
    | ok token => exact ⟨nofun, nofun⟩
    | error cause => simp [Except.map]

/-- A call ends as the final reply of its deciding stage has it. -/
theorem perform_ends (client : Client) (action : Action) (session : Session) :
    client.CallEnds session action (client.perform action session).result
        (client.perform action session).arrivals ∧
      ∀ fault, (client.perform .authenticate session).result = .error fault ↔
        session.freshToken? = none ∧ (client.exchanged session.backend).1 = .error fault := by
  refine ⟨?_, authenticate_eq_error client session⟩
  obtain ⟨arrived, hreceipts, hclock, htoken⟩ := client.token_ends session
  cases action with
  | advance seconds =>
    rw [arrivals_advance]
    exact .advanced
  | authenticate =>
    rw [arrivals_authenticate hreceipts]
    show client.CallEnds session .authenticate (client.authenticate.run.run session).1 arrived
    rw [authenticate_run]
    exact .authenticated htoken
  | post channel text =>
    rcases hdrawn : client.token.run.run session with ⟨fault | token, after⟩
    · rw [hdrawn] at hreceipts htoken
      rw [arrivals_post_of_error hdrawn hreceipts]
      show client.CallEnds session _ ((client.post channel text).run.run session).1 arrived
      rw [post_run, hdrawn]
      exact .unsent htoken
    · obtain ⟨later, hlater, harrives, hmessage⟩ := client.message_ends channel text hdrawn
      rw [hdrawn] at hreceipts hclock htoken
      rw [arrivals_post_of_ok hdrawn hreceipts hlater]
      rw [hclock] at hmessage
      exact .sent htoken harrives hmessage

end Client

end Chat

end ManifestNotice
