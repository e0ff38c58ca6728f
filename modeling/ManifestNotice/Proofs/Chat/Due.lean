import ManifestNotice.Proofs.Chat.History

/-!
# Exchanges when they are due

A call exchanges credentials exactly if no exchange came to a grant before it,
or if the token of the latest one has half a minute or less to live; and then it
does so once. A call that goes wrong leaves nothing behind but the token of an
exchange of its own, the replies it used up and the time that passed
(`exchanges_when_due`).
-/

namespace ManifestNotice.Chat

open Http (Receipt)

-- ---------------------------------------------------------------------------
-- Exchanges of a call
-- ---------------------------------------------------------------------------

def notesExchange : Log.Event → Bool
  | .requestingToken _ => true
  | _ => false

def Call.notes (call : Call) : List Log.Event :=
  call.after.events.drop call.before.events.length

/-- How often the call exchanges credentials, whatever comes of it. -/
def Call.exchanges (call : Call) : Nat := call.notes.countP notesExchange

def Action.needsToken : Action → Bool
  | .advance _ => false
  | _ => true

theorem Call.notes_eq {call : Call} (h : call.after.events = call.before.events ++ noted) :
    call.notes = noted := by
  rw [notes, h, List.drop_left]

/-- The session without what was noted in it. -/
def Session.silent (session : Session) : Session := { session with events := [] }

theorem Session.silent_eq_iff {a b : Session} :
    a.silent = b.silent ↔ a.backend = b.backend ∧ a.token = b.token := by
  simp [silent]

namespace Client

section
variable (client : Client) (session : Session)

theorem token_events : (client.token.run.run session).2.events =
    session.events ++ match session.freshToken? with
      | some _ => []
      | none => [.requestingToken client.credentials.serverUrl] := by
  rw [token_run]
  cases session.freshToken? with
  | some token => exact (List.append_nil _).symm
  | none => rfl

theorem post_events (channel text : String) :
    ∃ noted, ((client.post channel text).run.run session).2.events =
      (client.token.run.run session).2.events ++ noted ∧ noted.countP notesExchange = 0 := by
  rw [post_run]
  rcases client.token.run.run session with ⟨fault | token, after⟩
  · exact ⟨[], (List.append_nil _).symm, rfl⟩
  · exact ⟨_, rfl, rfl⟩

theorem exchanges_of_events {call : Call} (noted : List Log.Event)
    (hafter : call.after.events = (client.token.run.run call.before).2.events ++ noted)
    (hnoted : noted.countP notesExchange = 0) :
    call.exchanges = if call.before.freshToken?.isNone then 1 else 0 := by
  rw [token_events, List.append_assoc] at hafter
  rw [Call.exchanges, Call.notes_eq hafter, List.countP_append, hnoted]
  cases call.before.freshToken? <;> rfl

theorem perform_exchanges (action : Action) : (client.perform action session).exchanges =
    if action.needsToken && session.freshToken?.isNone then 1 else 0 := by
  cases action with
  | advance seconds =>
    rw [Call.exchanges, Call.notes_eq (List.append_nil _).symm]
    rfl
  | authenticate =>
    refine client.exchanges_of_events [] ?_ rfl
    show (client.authenticate.run.run session).2.events = _
    rw [authenticate_run, List.append_nil]
    rfl
  | post channel text =>
    obtain ⟨noted, hafter, hnoted⟩ := client.post_events session channel text
    exact client.exchanges_of_events noted hafter hnoted

end

-- ---------------------------------------------------------------------------
-- What arrives for an exchange
-- ---------------------------------------------------------------------------

/-- Whether a request for a token arrives when it is sent. -/
def Reaches (client : Client) (request : Http.Request) : Prop :=
  Http.Target.isAskable request.url ∧ client.network request.url = .answered

/-- Of what arrives, as many requests for a token were sent as the client means
to send, or fewer if the server is out of reach. -/
def Asks (client : Client) (exchanges : Nat) (arrived : List Receipt) : Prop :=
  ∀ request, tokenRequest client.credentials = .ok request →
    arrived.countP (·.opens request) ≤ exchanges ∧
      (client.Reaches request → arrived.countP (·.opens request) = exchanges)

section
variable {client : Client}

theorem Aside.asks (h : client.Aside later) : client.Asks 0 later := by
  intro request ht
  have hzero : later.countP (·.opens request) = 0 :=
    List.countP_eq_zero.mpr fun receipt hm => Bool.eq_false_iff.mp (h.opens ht receipt hm)
  exact ⟨hzero.le, fun _ => hzero⟩

theorem Asks.append (h : client.Asks exchanges arrived) (hl : client.Asks 0 later) :
    client.Asks exchanges (arrived ++ later) := by
  intro request ht
  have hzero := Nat.le_zero.mp (hl request ht).1
  rw [List.countP_append, hzero, Nat.add_zero]
  exact h request ht

theorem exchanged_asks (client : Client) (backend : Http.Backend) :
    ∃ arrived, (client.exchanged backend).2.receipts = backend.receipts ++ arrived ∧
      client.Asks 1 arrived := by
  obtain ⟨arrived, ha, hr, -⟩ := exchanged_arrived client backend
  refine ⟨arrived, hr, ?_⟩
  intro request ht
  have hle : arrived.countP (·.opens request) ≤ 1 := by
    cases ha with
    | nothing => exact Nat.zero_le 1
    | chain _ hc => exact hc.countP_opens_le request
  refine ⟨hle, fun hreach => ?_⟩
  obtain ⟨rest, hx⟩ := Http.exchange_receives client.network request backend hreach.1 hreach.2
  have hsame : (client.exchanged backend).2 = (Http.exchange client.network request backend).2 := by
    unfold exchanged asked
    rw [ht]
  rw [hsame, hx] at hr
  rw [← List.append_cancel_left hr] at hle ⊢
  simp only [List.countP_cons, Receipt.opens, beq_self_eq_true, decide_true, Bool.and_self,
    if_true] at hle ⊢
  omega

theorem token_asks (client : Client) (session : Session) :
    ∃ arrived, (client.token.run.run session).2.backend.receipts =
        session.backend.receipts ++ arrived ∧
      client.Asks (if session.freshToken?.isNone then 1 else 0) arrived := by
  rw [token_run]
  cases session.freshToken? with
  | some token => exact ⟨[], (List.append_nil _).symm, Aside.nil.asks⟩
  | none => exact client.exchanged_asks session.backend

theorem perform_asks (client : Client) (action : Action) (session : Session) :
    client.Asks (client.perform action session).exchanges (client.perform action session).arrivals := by
  obtain ⟨first, hfirst, hasks⟩ := client.token_asks session
  rw [perform_exchanges]
  cases action with
  | advance seconds =>
    rw [arrivals_advance]
    exact Aside.nil.asks
  | authenticate =>
    rw [arrivals_authenticate hfirst]
    exact hasks
  | post channel text =>
    rcases hdrawn : client.token.run.run session with ⟨fault | token, after⟩
    · rw [hdrawn] at hfirst
      rw [arrivals_post_of_error hdrawn hfirst]
      exact hasks
    · rw [hdrawn] at hfirst
      obtain ⟨later, hm⟩ := asked_arrived client
        (messageRequest client.credentials.serverUrl token.value channel text) after.backend
      rw [arrivals_post_of_ok hdrawn hfirst hm.receipts]
      exact hasks.append (aside_of_message hm.arrives).asks

end

-- ---------------------------------------------------------------------------
-- What a call leaves behind
-- ---------------------------------------------------------------------------

section
variable (client : Client) (session : Session)

theorem token_silent :
    (client.token.run.run session.silent).1 = (client.token.run.run session).1 ∧
      (client.token.run.run session.silent).2.silent = (client.token.run.run session).2.silent := by
  have hfresh : session.silent.freshToken? = session.freshToken? := rfl
  rw [token_run, token_run, hfresh]
  cases session.freshToken? <;> exact ⟨rfl, rfl⟩

theorem perform_silent (action : Action) :
    (client.perform action session.silent).after.silent =
      (client.perform action session).after.silent := by
  obtain ⟨hresult, hafter⟩ := client.token_silent session
  cases action with
  | advance seconds => rfl
  | authenticate =>
    show (client.authenticate.run.run session.silent).2.silent =
      (client.authenticate.run.run session).2.silent
    rw [authenticate_run, authenticate_run]
    exact hafter
  | post channel text =>
    show ((client.post channel text).run.run session.silent).2.silent =
      ((client.post channel text).run.run session).2.silent
    rw [post_run, post_run]
    generalize client.token.run.run session.silent = quiet at hresult hafter ⊢
    generalize client.token.run.run session = loud at hresult hafter ⊢
    rcases quiet with ⟨result, middle⟩
    rcases loud with ⟨fault | token, after⟩
    · cases hresult
      exact hafter
    · cases hresult
      obtain ⟨hbackend, htoken⟩ := Session.silent_eq_iff.mp hafter
      refine Session.silent_eq_iff.mpr ⟨?_, htoken⟩
      show (client.asked _ middle.backend).2 = (client.asked _ after.backend).2
      rw [hbackend]

theorem calls_silent (actions : List Action) :
    (client.calls actions session.silent).map Call.exchanges =
      (client.calls actions session).map Call.exchanges := by
  induction actions generalizing session with
  | nil => rfl
  | cons action rest ih =>
    rw [calls, calls, List.map_cons, List.map_cons, perform_exchanges, perform_exchanges,
      ← ih (client.perform action session).after, ← ih (client.perform action session.silent).after,
      perform_silent]
    rfl

theorem calls_exchanges_congr {a b : Session} (hb : a.backend = b.backend) (ht : a.token = b.token)
    (actions : List Action) :
    (client.calls actions a).map Call.exchanges = (client.calls actions b).map Call.exchanges := by
  rw [← client.calls_silent a, ← client.calls_silent b, Session.silent_eq_iff.mpr ⟨hb, ht⟩]

end

-- ---------------------------------------------------------------------------
-- All calls
-- ---------------------------------------------------------------------------

/-- Whether the latest exchange leaves no token to use at a time. -/
def Due (clock : Nat) : Option Exchange → Prop
  | none => True
  | some latest => latest.readAt + latest.lifetime ≤ clock + 30

theorem freshToken?_eq_none_iff {session : Session} {latest : Option Exchange}
    (h : session.token = latest.map Exchange.token) :
    session.freshToken? = none ↔ Due session.backend.clock latest := by
  unfold Session.freshToken?
  rw [h]
  cases latest with
  | none => exact ⟨fun _ => trivial, fun _ => rfl⟩
  | some exchange =>
    have hstale : exchange.token.isFresh session.backend.clock = false ↔
        Due session.backend.clock (some exchange) :=
      ⟨fun h => Nat.le_of_not_lt (of_decide_eq_false h),
        fun h => decide_eq_false (Nat.not_lt_of_le h)⟩
    rw [Option.map_some, ← hstale, Option.filter_some]
    cases exchange.token.isFresh session.backend.clock <;> simp

/-- What is said of a call after others. It exchanges credentials once if that is
due, and else never; and all that later calls can tell of it is the token of its
own exchange, if that came to a grant, and how far the servers are. -/
structure ExchangesWhenDue (client : Client) (past : List Call) (call : Call) : Prop where
  due : call.exchanges = 1 ↔
    call.action.needsToken ∧ Due call.before.backend.clock (client.latest? past)
  once : call.exchanges ≤ 1
  asks : client.Asks call.exchanges call.arrivals
  held : call.after.token =
    ((client.exchange? call).map Exchange.token).or call.before.token
  /-- An exchange that fails leaves the token as it was. -/
  failed {fault : Fault} : (client.token.run.run call.before).1 = .error fault →
    call.after.token = call.before.token
  /-- After the token, a post changes nothing, however it ends. -/
  drawn : call.action.needsToken →
    call.after.token = (client.token.run.run call.before).2.token
  later (other : Session) (actions : List Action) : other.backend = call.after.backend →
    other.token = ((client.exchange? call).map Exchange.token).or call.before.token →
    (client.calls actions call.after).map Call.exchanges =
      (client.calls actions other).map Call.exchanges

theorem drawn_of_needsToken (client : Client) {action : Action} (h : action.needsToken)
    (session : Session) :
    (client.perform action session).after.token = (client.token.run.run session).2.token := by
  cases action with
  | advance => cases h
  | authenticate =>
    show (client.authenticate.run.run session).2.token = _
    rw [authenticate_run]
  | post channel text =>
    show ((client.post channel text).run.run session).2.token = _
    rw [post_run]
    rcases client.token.run.run session with ⟨_ | _, _⟩ <;> rfl

/-- A token that could not be had leaves the one that was held. -/
theorem token_eq_of_error (client : Client) {session : Session} {fault : Fault}
    (h : (client.token.run.run session).1 = .error fault) :
    (client.token.run.run session).2.token = session.token := by
  rw [token_run] at h ⊢
  revert h
  cases session.freshToken? with
  | some token => exact fun _ => rfl
  | none =>
    intro h
    have h : (client.exchanged session.backend).1 = .error fault := h
    show (client.exchanged session.backend).1.toOption.or session.token = session.token
    rw [h]
    rfl

theorem exchanges_when_due (client : Client) (actions : List Action) (backend : Http.Backend)
    (past future : List Call) (call : Call)
    (h : client.calls actions { backend } = past ++ call :: future) :
    client.ExchangesWhenDue past call := by
  have hm : call ∈ client.calls actions { backend } :=
    h ▸ List.mem_append_right _ List.mem_cons_self
  have hperform := eq_perform_of_mem hm
  have hheld := (recorded_of_mem hm).held
  have hbefore : call.before.token = (client.latest? past).map Exchange.token := by
    rw [token_before h, Option.or_none]
  have hdue := freshToken?_eq_none_iff hbefore
  have hcount : call.exchanges =
      if call.action.needsToken && call.before.freshToken?.isNone then 1 else 0 := by
    rw [← perform_exchanges client call.before call.action, ← hperform]
  refine ⟨?_, ?_, ?_, hheld, ?_, ?_, ?_⟩
  · rw [hcount, ← hdue]
    simp
  · rw [hcount]
    split <;> omega
  · have hasks := client.perform_asks call.action call.before
    rwa [← hperform] at hasks
  · intro fault hfault
    cases hn : call.action.needsToken with
    | true =>
      have hdrawn := client.drawn_of_needsToken hn call.before
      rw [← hperform] at hdrawn
      rw [hdrawn, client.token_eq_of_error hfault]
    | false =>
      cases ha : call.action with
      | advance seconds => rw [hperform, ha]; rfl
      | _ => rw [ha] at hn; cases hn
  · intro hn
    have hdrawn := client.drawn_of_needsToken hn call.before
    rwa [← hperform] at hdrawn
  · intro other rest hb ht
    exact client.calls_exchanges_congr hb.symm (hheld.trans ht.symm) rest

/-- A message that is refused costs no token; half a minute before its end the
token is due for another, and stays where there is none. -/
theorem due_after_refusals :
    let client : Client := ⟨⟨"id", "secret", "http://h"⟩, fun _ => .answered⟩
    let grant := Utf8.ofString "\x7b\"access_token\":\"t\",\"expires_in\":60\x7d"
    let backend : Http.Backend :=
      { script := [{ status := 200, body := grant, delay := 2 }, { status := 401 }, { status := 403 }]
        clock := 1000 }
    let first := client.perform .authenticate { backend }
    let second := client.perform (.post "c" "x") first.after
    let third := client.perform (.advance 30) second.after
    let fourth := client.perform (.post "c" "y") third.after
    [first, second, third, fourth].map Call.exchanges = [1, 0, 0, 1] ∧
      second.result = .error (.auth "empty response body") ∧
      fourth.after.token = some ⟨"t", 1062⟩ ∧
      client.ExchangesWhenDue [first] second ∧ client.ExchangesWhenDue [first, second, third] fourth := by
  intro client grant backend first second third fourth
  have hcalls : client.calls [.authenticate, .post "c" "x", .advance 30, .post "c" "y"] { backend } =
      [first, second, third, fourth] := rfl
  refine ⟨by decide +kernel, ?_, by decide +kernel, ?_, ?_⟩
  · show second.result = _
    decide +kernel
  · exact client.exchanges_when_due _ backend [first] [third, fourth] second hcalls
  · exact client.exchanges_when_due _ backend [first, second, third] [] fourth hcalls

end Client

end ManifestNotice.Chat
