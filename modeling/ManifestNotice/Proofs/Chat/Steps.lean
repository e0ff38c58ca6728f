import ManifestNotice.Chat.Client
import ManifestNotice.Proofs.Http.Chain
import ManifestNotice.Proofs.Steps

/-!
# Steps of a chat client

What each step of a client gives, as an equation on the servers: a request is
built and exchanged (`asked`), credentials are exchanged for a token
(`exchanged`), and the steps of a session put these together. `asked_arrived`
says what arrives.
-/

namespace ManifestNotice.Chat

open Http (Chain answer? delays)

namespace Client

/-- The final reply to a request that may not have been built. -/
def asked (client : Client) (request : Except Http.Fault Http.Request) (backend : Http.Backend) :
    Except Fault Http.Reply × Http.Backend :=
  match request with
  | .ok request =>
    let (result, backend) := Http.exchange client.network request backend
    (result.mapError .network, backend)
  | .error fault => (.error (.network fault), backend)

def exchanged (client : Client) (backend : Http.Backend) : Except Fault Token × Http.Backend :=
  let (reply, backend) := client.asked (tokenRequest client.credentials) backend
  (reply.bind fun reply => (grantOf reply).map fun grant =>
    ⟨grant.token, Token.expiryAt backend.clock grant.lifetime⟩, backend)

-- ---------------------------------------------------------------------------
-- Equations
-- ---------------------------------------------------------------------------

section
variable (client : Client) (session : Session)

theorem note_run (event : Log.Event) : (Session.note event).run.run session =
    (.ok (), { session with events := session.events ++ [event] }) := rfl

theorem ask_run (request : Except Http.Fault Http.Request) :
    (client.ask request).run.run session =
      ((client.asked request session.backend).1,
        { session with backend := (client.asked request session.backend).2 }) := by
  cases request with
  | error fault => rfl
  | ok request =>
    simp only [ask, Session.send, asked, run_bind, run_get, run_modify]
    cases (Http.exchange client.network request session.backend).1 <;> rfl

theorem requestToken_run : client.requestToken.run.run session =
    ((client.exchanged session.backend).1,
      { session with
        backend := (client.exchanged session.backend).2
        events := session.events ++ [.requestingToken client.credentials.serverUrl] }) := by
  simp only [requestToken, run_bind, note_run, ask_run, exchanged]
  cases (client.asked (tokenRequest client.credentials) session.backend).1 with
  | error fault => rfl
  | ok reply =>
    simp only [run_ofExcept, Except.bind]
    cases grantOf reply <;> rfl

/-- A fresh token is used as it is; a new one takes the place of the old one. -/
theorem token_run : client.token.run.run session =
    match session.freshToken? with
    | some token => (.ok token, session)
    | none =>
      ((client.exchanged session.backend).1,
        { session with
          backend := (client.exchanged session.backend).2
          token := (client.exchanged session.backend).1.toOption.or session.token
          events := session.events ++ [.requestingToken client.credentials.serverUrl] }) := by
  simp only [token, run_bind, run_get]
  cases session.freshToken? with
  | some token => rfl
  | none =>
    simp only [run_bind, requestToken_run, run_modify]
    cases (client.exchanged session.backend).1 <;> rfl

theorem authenticate_run : client.authenticate.run.run session =
    ((client.token.run.run session).1.map fun _ => (), (client.token.run.run session).2) := by
  simp only [authenticate, run_bind]
  cases client.token.run.run session with
  | mk result after => cases result <;> rfl

theorem post_run (channel text : String) : (client.post channel text).run.run session =
    match client.token.run.run session with
    | (.error fault, after) => (.error fault, after)
    | (.ok token, after) =>
      let message := messageRequest client.credentials.serverUrl token.value channel text
      ((client.asked message after.backend).1.bind acceptedBy,
        { after with
          backend := (client.asked message after.backend).2
          events := after.events ++ [.postingMessage channel (Utf8.size text.toList)] }) := by
  simp only [post, run_bind]
  cases client.token.run.run session with
  | mk result after =>
    cases result with
    | error fault => rfl
    | ok token =>
      simp only [note_run, ask_run]
      cases (client.asked _ after.backend).1 with
      | error fault => rfl
      | ok reply => simp only [run_ofExcept, Except.bind]

end

-- ---------------------------------------------------------------------------
-- What arrives
-- ---------------------------------------------------------------------------

inductive Arrives (request : Except Http.Fault Http.Request) : List Http.Receipt → Prop
  | nothing : Arrives request []
  | chain {built arrived} : request = .ok built → Chain 0 built arrived → Arrives request arrived

theorem Arrives.eq_ok (h : Arrives request arrived) (hm : .request other 0 reply ∈ arrived) :
    request = .ok other := by
  cases h with
  | nothing => cases hm
  | chain hb hc => rw [hb, hc.eq_of_mem_zero hm]

theorem Arrives.body (h : Arrives request arrived) (hm : .request other hop reply ∈ arrived) :
    other.body = [] ∨ ∃ built, request = .ok built ∧ other.body = built.body := by
  cases h with
  | nothing => cases hm
  | chain hb hc => exact (hc.body hm).symm.imp_right fun h => ⟨_, hb, h⟩

/-- What asking does to the servers, and how its result follows from what
arrived there. -/
structure Asked (request : Except Http.Fault Http.Request) (before : Http.Backend)
    (result : Except Fault Http.Reply) (after : Http.Backend) (arrived : List Http.Receipt) :
    Prop where
  arrives : Arrives request arrived
  receipts : after.receipts = before.receipts ++ arrived
  clock : after.clock = before.clock + delays arrived
  answer : result.toOption = answer? (before.clock + Http.timeLimit) after.clock arrived

/-- A request that has no reply fails by the network. -/
theorem asked_error (client : Client) (request : Except Http.Fault Http.Request)
    (backend : Http.Backend) (h : (client.asked request backend).1 = .error fault) :
    ∃ cause, fault = .network cause := by
  cases request with
  | error cause => exact ⟨cause, (Except.error.inj h).symm⟩
  | ok request =>
    change (Http.exchange client.network request backend).1.mapError Fault.network = _ at h
    cases hx : (Http.exchange client.network request backend).1 with
    | ok reply =>
      rw [hx] at h
      cases h
    | error cause =>
      rw [hx] at h
      exact ⟨cause, (Except.error.inj h).symm⟩

theorem asked_arrived (client : Client) (request : Except Http.Fault Http.Request)
    (before : Http.Backend) :
    ∃ arrived, Asked request before (client.asked request before).1
      (client.asked request before).2 arrived := by
  cases request with
  | error fault => exact ⟨[], .nothing, by simp [asked], by simp [asked], rfl⟩
  | ok request =>
    obtain ⟨arrived, h⟩ := Http.exchange_exchanged client.network request before
    refine ⟨arrived, .chain rfl h.chain, h.receipts, h.clock, ?_⟩
    refine Eq.trans ?_ h.answer
    show ((Http.exchange client.network request before).1.mapError Fault.network).toOption = _
    cases (Http.exchange client.network request before).1 <;> rfl

end Client

end ManifestNotice.Chat
