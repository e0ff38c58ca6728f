import ManifestNotice.Proofs.Chat.Requests
import ManifestNotice.Proofs.Chat.Steps

/-!
# The history of a client

A run is a list of calls, each with the sessions before and after it. What
arrives at the servers during a call shows whether it exchanged credentials for
a grant (`exchange?`). `token_before` says that the token a session holds is
always that of the latest exchange.
-/

namespace ManifestNotice.Chat

open Http (Receipt Chain delays)

-- ---------------------------------------------------------------------------
-- Calls
-- ---------------------------------------------------------------------------

structure Call where
  action : Action
  before : Session
  result : Except Fault Unit
  after : Session

def Call.arrivals (call : Call) : List Receipt :=
  call.after.backend.receipts.drop call.before.backend.receipts.length

theorem Call.arrivals_eq {call : Call}
    (h : call.after.backend.receipts = call.before.backend.receipts ++ arrived) :
    call.arrivals = arrived := by
  rw [arrivals, h, List.drop_left]

namespace Client

def perform (client : Client) (action : Action) (session : Session) : Call where
  action
  before := session
  result := ((client.act action).run.run session).1
  after := ((client.act action).run.run session).2

def calls (client : Client) : List Action → Session → List Call
  | [], _ => []
  | action :: rest, session =>
    client.perform action session :: client.calls rest (client.perform action session).after

theorem calls_trace (client : Client) (actions : List Action) (session : Session) :
    (client.calls actions session).map (fun call => (call.result, call.after)) =
      client.trace actions session := by
  induction actions generalizing session with
  | nil => rfl
  | cons action rest ih =>
    rw [calls, List.map_cons, ih]
    rfl

theorem eq_perform_of_mem (h : call ∈ calls client actions session) :
    call = client.perform call.action call.before := by
  induction actions generalizing session with
  | nil => cases h
  | cons action rest ih =>
    rcases List.mem_cons.mp h with rfl | h
    · rfl
    · exact ih h

section
variable {client : Client} {session after : Session} {first : List Receipt}

theorem arrivals_advance (client : Client) (seconds : Nat) (session : Session) :
    (client.perform (.advance seconds) session).arrivals = [] :=
  Call.arrivals_eq (List.append_nil _).symm

theorem arrivals_authenticate (h : (client.token.run.run session).2.backend.receipts =
    session.backend.receipts ++ first) : (client.perform .authenticate session).arrivals = first := by
  refine Call.arrivals_eq ?_
  show (client.authenticate.run.run session).2.backend.receipts = _
  rw [authenticate_run]
  exact h

theorem arrivals_post_of_error (hd : client.token.run.run session = (.error fault, after))
    (h : after.backend.receipts = session.backend.receipts ++ first) (channel text : String) :
    (client.perform (.post channel text) session).arrivals = first := by
  refine Call.arrivals_eq ?_
  show ((client.post channel text).run.run session).2.backend.receipts = _
  rw [post_run, hd]
  exact h

theorem arrivals_post_of_ok {token : Token}
    (hd : client.token.run.run session = (.ok token, after))
    (h : after.backend.receipts = session.backend.receipts ++ first)
    (hm : (client.asked (messageRequest client.credentials.serverUrl token.value channel text)
      after.backend).2.receipts = after.backend.receipts ++ later) :
    (client.perform (.post channel text) session).arrivals = first ++ later := by
  refine Call.arrivals_eq ?_
  show ((client.post channel text).run.run session).2.backend.receipts = _
  rw [post_run, hd, ← List.append_assoc]
  show (client.asked _ after.backend).2.receipts = session.backend.receipts ++ first ++ later
  rw [hm, h]

end

-- ---------------------------------------------------------------------------
-- Exchanges of credentials
-- ---------------------------------------------------------------------------

/-- An exchange that came to a grant, and when its answer had been read. -/
structure Exchange where
  grant : Grant
  readAt : Nat

namespace Exchange

/-- How long its token lives: as the grant says, or ten minutes if it does not
say or goes past the end of time. -/
def lifetime (exchange : Exchange) : Nat :=
  match exchange.grant.lifetime with
  | some seconds => if exchange.readAt + seconds < 0x8000000000000000 then seconds else 600
  | none => 600

def token (exchange : Exchange) : Token :=
  ⟨exchange.grant.token, exchange.readAt + exchange.lifetime⟩

theorem expiry_eq (exchange : Exchange) :
    exchange.token.expiry = Token.expiryAt exchange.readAt exchange.grant.lifetime := by
  unfold token lifetime Token.expiryAt
  cases exchange.grant.lifetime with
  | none => rfl
  | some seconds =>
    show exchange.readAt + (if exchange.readAt + seconds < 0x8000000000000000 then seconds else 600) =
      if exchange.readAt + seconds < 0x8000000000000000 then exchange.readAt + seconds
      else exchange.readAt + 600
    split <;> rfl

end Exchange

/-- The exchange among what arrives from a time on: the token request is sent,
and the last reply to it and its redirects is a grant and comes in time. -/
def exchangeIn? (client : Client) (clock : Nat) (arrived : List Receipt) : Option Exchange :=
  match tokenRequest client.credentials with
  | .error _ => none
  | .ok request =>
    let heard := Http.conversation request arrived
    (Http.replies heard).getLast?.bind fun final =>
      if 30 ≤ delays heard ∨ final.closed then none
      else (grantOf final).toOption.map fun grant => ⟨grant, clock + delays heard⟩

def exchange? (client : Client) (call : Call) : Option Exchange :=
  client.exchangeIn? call.before.backend.clock call.arrivals

def latest? (client : Client) (calls : List Call) : Option Exchange :=
  (calls.filterMap client.exchange?).getLast?

theorem latest?_cons (client : Client) (call : Call) (rest : List Call) :
    client.latest? (call :: rest) = (client.latest? rest).or (client.exchange? call) := by
  unfold latest?
  rw [List.filterMap_cons]
  cases client.exchange? call with
  | none => simp
  | some exchange =>
    rw [List.getLast?_cons]
    cases (rest.filterMap client.exchange?).getLast? <;> rfl

theorem latest?_concat (client : Client) (past : List Call) (call : Call) :
    client.latest? (past ++ [call]) = (client.exchange? call).or (client.latest? past) := by
  induction past with
  | nil =>
    rw [List.nil_append, latest?_cons]
    cases client.exchange? call <;> rfl
  | cons first past ih => rw [List.cons_append, latest?_cons, latest?_cons, ih, Option.or_assoc]

theorem isSuccess_of_grantOf (h : grantOf reply = .ok grant) : reply.isSuccess := by
  unfold grantOf at h
  split at h
  · cases h
  · split at h
    · assumption
    · split at h <;> cases h

theorem isSuccess_of_acceptedBy (h : acceptedBy reply = .ok ()) : reply.isSuccess := by
  unfold acceptedBy at h
  split at h
  · assumption
  · simp only at h
    split at h <;> cases h

/-- Only a reply that answers its chain can be a grant. -/
theorem grant_of_chain (h : Chain hop request arrived) (f : Grant → Exchange) :
    ((Http.replies arrived).getLast?.bind fun final =>
        if 30 ≤ delays arrived ∨ final.closed then none else (grantOf final).toOption.map f) =
      (Http.answer? (clock + Http.timeLimit) (clock + delays arrived) arrived).bind
        fun reply => (grantOf reply).toOption.map f := by
  have hlate : clock + Http.timeLimit ≤ clock + delays arrived ↔ 30 ≤ delays arrived := by
    unfold Http.timeLimit
    omega
  cases hf : (Http.replies arrived).getLast? with
  | none =>
    cases ha : Http.answer? (clock + Http.timeLimit) (clock + delays arrived) arrived with
    | none => rfl
    | some reply =>
      rw [Http.getLast?_replies_of_answer? ha] at hf
      cases hf
  | some final =>
    cases hg : grantOf final with
    | ok grant =>
      rw [h.answer?_of_isSuccess hf (isSuccess_of_grantOf hg)]
      simp only [hlate, Option.bind_some, hg]
      split
      · rfl
      · rw [Option.bind_some, hg]
    | error fault =>
      have hnone : (grantOf final).toOption.map f = none := by rw [hg]; rfl
      rw [Option.bind_some, hnone, ite_self]
      cases ha : Http.answer? (clock + Http.timeLimit) (clock + delays arrived) arrived with
      | none => rfl
      | some reply =>
        have := Http.getLast?_replies_of_answer? ha
        rw [hf] at this
        cases this
        rw [Option.bind_some, hnone]

/-- What other requests bring does not show as an exchange. -/
structure Aside (client : Client) (later : List Receipt) : Prop where
  opens : tokenRequest client.credentials = .ok request →
    ∀ receipt ∈ later, receipt.opens request = false
  head : ∀ receipt, later.head? = some receipt → receipt.isRedirected = false

section
variable {client : Client}

theorem Aside.nil : client.Aside [] where
  opens _ _ hm := by cases hm
  head _ h := by cases h

theorem Aside.exchangeIn? (h : client.Aside later) : client.exchangeIn? clock later = none := by
  unfold Client.exchangeIn?
  split
  · rfl
  · next request ht => rw [Http.conversation_of_not_opens (h.opens ht)]; rfl

theorem aside_of_message (h : Arrives (messageRequest server value channel text) later) :
    client.Aside later := by
  cases h with
  | nothing => exact .nil
  | chain hm hc => exact ⟨fun ht => hc.not_opens (messageRequest_ne hm ht), hc.head?_isRedirected⟩

end

theorem exchanged_toOption (client : Client) (backend : Http.Backend) :
    (client.exchanged backend).1.toOption =
      (client.asked (tokenRequest client.credentials) backend).1.toOption.bind fun reply =>
        ((grantOf reply).toOption.map fun grant =>
          (⟨grant, (client.exchanged backend).2.clock⟩ : Exchange)).map Exchange.token := by
  unfold exchanged
  rcases client.asked (tokenRequest client.credentials) backend with ⟨fault | reply, after⟩
  · rfl
  · show ((grantOf reply).map _).toOption = Option.map _ _
    cases grantOf reply with
    | error fault => rfl
    | ok grant =>
      refine congrArg some (congrArg (Token.mk grant.token) ?_)
      exact (Exchange.expiry_eq ⟨grant, after.clock⟩).symm

theorem exchanged_arrived (client : Client) (backend : Http.Backend) :
    ∃ arrived,
      Arrives (tokenRequest client.credentials) arrived ∧
      (client.exchanged backend).2.receipts = backend.receipts ++ arrived ∧
      ∀ later, client.Aside later →
        (client.exchangeIn? backend.clock (arrived ++ later)).map Exchange.token =
          (client.exchanged backend).1.toOption := by
  obtain ⟨arrived, h⟩ := asked_arrived client (tokenRequest client.credentials) backend
  refine ⟨arrived, h.arrives, h.receipts, ?_⟩
  intro later hl
  have hclock : (client.exchanged backend).2.clock = backend.clock + delays arrived := h.clock
  rw [exchanged_toOption, h.answer, h.clock, hclock]
  cases h.arrives with
  | nothing =>
    rw [List.nil_append, hl.exchangeIn?]
    rfl
  | chain ht hc =>
    simp only [exchangeIn?, ht]
    have hheard := hc.replies_conversation (hl.opens ht) hl.head
    rw [hheard, Http.delays_congr hheard, grant_of_chain hc]
    cases Http.answer? _ _ arrived <;> rfl

-- ---------------------------------------------------------------------------
-- One call
-- ---------------------------------------------------------------------------

/-- What is known after a token was asked for: what arrived, that the token held
is the one exchanged or else the one held before, and where the token comes
from. -/
structure Drawn (client : Client) (before : Session) (result : Except Fault Token)
    (after : Session) (arrived : List Receipt) : Prop where
  arrives : Arrives (tokenRequest client.credentials) arrived
  receipts : after.backend.receipts = before.backend.receipts ++ arrived
  held : client.Aside later →
    after.token =
      ((client.exchangeIn? before.backend.clock (arrived ++ later)).map Exchange.token).or
        before.token
  origin {used : Token} : result = .ok used → after.token = some used ∧
    (before.freshToken? = some used ∨ ∀ later, client.Aside later →
      (client.exchangeIn? before.backend.clock (arrived ++ later)).isSome)

theorem token_drawn (client : Client) (session : Session) :
    ∃ arrived, client.Drawn session (client.token.run.run session).1
      (client.token.run.run session).2 arrived := by
  rw [token_run]
  cases hf : session.freshToken? with
  | some token =>
    refine ⟨[], .nothing, (List.append_nil _).symm, ?_, ?_⟩
    · intro later hl
      rw [List.nil_append, hl.exchangeIn?]
      rfl
    · intro used hu
      cases hu
      exact ⟨(Option.filter_eq_some_iff.mp hf).1, .inl hf⟩
  | none =>
    obtain ⟨arrived, hc, hr, hx⟩ := exchanged_arrived client session.backend
    refine ⟨arrived, hc, hr, ?_, ?_⟩
    · intro later hl
      rw [hx later hl]
    · intro used hu
      have hu : (client.exchanged session.backend).1 = .ok used := hu
      refine ⟨?_, .inr fun later hl => ?_⟩
      · show (client.exchanged session.backend).1.toOption.or session.token = some used
        rw [hu]
        rfl
      · have := hx later hl
        rw [hu] at this
        rw [← Option.isSome_map, this]
        rfl

/-- What is known after a message was posted: no token was had, or the message
was sent with it after whatever came for the token. -/
inductive Posted (client : Client) (channel text : String) (before : Session) :
    Except Fault Unit → Session → List Receipt → List Receipt → Prop
  | undrawn {fault after arrived} : client.Drawn before (.error fault) after arrived →
      Posted client channel text before (.error fault) after arrived []
  | sent {token middle arrived reply after later} : client.Drawn before (.ok token) middle arrived →
      Asked (messageRequest client.credentials.serverUrl token.value channel text)
        middle.backend reply after.backend later →
      after.token = middle.token →
      Posted client channel text before (reply.bind acceptedBy) after arrived later

theorem post_posted (client : Client) (channel text : String) (session : Session) :
    ∃ arrived later, client.Posted channel text session
      ((client.post channel text).run.run session).1
      ((client.post channel text).run.run session).2 arrived later := by
  obtain ⟨arrived, h⟩ := token_drawn client session
  rw [post_run]
  generalize client.token.run.run session = drawn at h ⊢
  rcases drawn with ⟨fault | token, after⟩
  · exact ⟨arrived, [], .undrawn h⟩
  · obtain ⟨later, hm⟩ := asked_arrived client
      (messageRequest client.credentials.serverUrl token.value channel text) after.backend
    exact ⟨arrived, later, .sent h hm rfl⟩

theorem Posted.receipts {client : Client} {channel text : String} {before after : Session}
    (h : client.Posted channel text before result after arrived later) :
    after.backend.receipts = before.backend.receipts ++ (arrived ++ later) := by
  cases h with
  | undrawn h => rw [h.receipts, List.append_nil]
  | sent h hm _ => rw [hm.receipts, h.receipts, List.append_assoc]

/-- Where a post succeeds, its message went out and the last reply of the chain
takes it. -/
theorem Posted.success {client : Client} {channel text : String} {before after : Session}
    (h : client.Posted channel text before (.ok ()) after arrived later) :
    Arrives (tokenRequest client.credentials) arrived ∧
      ∃ value message reply deadline clock,
        messageRequest client.credentials.serverUrl value channel text = .ok message ∧
        Chain 0 message later ∧ Http.answer? deadline clock later = some reply ∧
        reply.isSuccess := by
  generalize hresult : (Except.ok () : Except Fault Unit) = result at h
  cases h with
  | undrawn => cases hresult
  | @sent token middle _ result _ _ hd ha =>
    cases result with
    | error fault => cases hresult
    | ok reply =>
      have hanswer := ha.answer.symm
      cases ha.arrives with
      | nothing => cases hanswer
      | chain hb hc =>
        exact ⟨hd.arrives, token.value, _, reply, _, _, hb, hc, hanswer,
          isSuccess_of_acceptedBy hresult.symm⟩

/-- What is known after a call: the token held is the one exchanged or else the
one held before, and the requests that open a chain are for a token or bring a
message with the token held. -/
structure Recorded (client : Client) (call : Call) : Prop where
  receipts : call.after.backend.receipts = call.before.backend.receipts ++ call.arrivals
  held : call.after.token = ((client.exchange? call).map Exchange.token).or call.before.token
  opened : .request request 0 reply ∈ call.arrivals →
    tokenRequest client.credentials = .ok request ∨
      ∃ channel text token, call.action = .post channel text ∧
        messageRequest client.credentials.serverUrl token.value channel text = .ok request ∧
        call.after.token = some token ∧
        (call.before.freshToken? = some token ∨ (client.exchange? call).isSome)

theorem Drawn.recorded {client : Client} {call : Call} {result : Except Fault Token}
    (h : client.Drawn call.before result call.after arrived) : client.Recorded call := by
  have ha : call.arrivals = arrived := Call.arrivals_eq h.receipts
  constructor
  · rw [ha]
    exact h.receipts
  · rw [exchange?, ha, ← List.append_nil arrived]
    exact h.held .nil
  · intro request reply hm
    rw [ha] at hm
    exact .inl (h.arrives.eq_ok hm)

theorem Posted.recorded {client : Client} {channel text : String} {before after : Session}
    (h : client.Posted channel text before result after arrived later) :
    client.Recorded ⟨.post channel text, before, result, after⟩ := by
  have ha : (Call.mk (.post channel text) before result after).arrivals = arrived ++ later :=
    Call.arrivals_eq h.receipts
  have hreceipts := h.receipts
  cases h with
  | undrawn h => exact h.recorded
  | @sent token middle _ _ _ _ h hm ht =>
    have hl : client.Aside later := aside_of_message hm.arrives
    obtain ⟨hheld, horigin⟩ := h.origin rfl
    constructor
    · rw [ha]
      exact hreceipts
    · rw [exchange?, ha]
      exact ht.trans (h.held hl)
    · intro request reply hmem
      rw [ha] at hmem
      rcases List.mem_append.mp hmem with hmem | hmem
      · exact .inl (h.arrives.eq_ok hmem)
      · rw [exchange?, ha]
        exact .inr ⟨channel, text, token, rfl, hm.arrives.eq_ok hmem, ht.trans hheld,
          horigin.imp_right fun hs => hs later hl⟩

theorem perform_recorded (client : Client) (action : Action) (session : Session) :
    client.Recorded (client.perform action session) := by
  cases action with
  | authenticate =>
    obtain ⟨arrived, h⟩ := token_drawn client session
    have ha : (client.perform .authenticate session).after = (client.token.run.run session).2 := by
      show (client.authenticate.run.run session).2 = _
      rw [authenticate_run]
    rw [← ha] at h
    exact h.recorded
  | advance seconds =>
    have ha := arrivals_advance client seconds session
    constructor
    · rw [ha]
      exact (List.append_nil _).symm
    · rw [exchange?, ha, Aside.nil.exchangeIn?]
      rfl
    · intro request reply hm
      rw [ha] at hm
      cases hm
  | post channel text =>
    obtain ⟨arrived, later, h⟩ := post_posted client channel text session
    exact h.recorded

-- ---------------------------------------------------------------------------
-- All calls
-- ---------------------------------------------------------------------------

/-- What arrives in a run is what arrives in its calls, in their order. -/
theorem receipts_calls (client : Client) (actions : List Action) (session : Session) :
    ((client.calls actions session).getLast?.elim session (·.after)).backend.receipts =
      session.backend.receipts ++ (client.calls actions session).flatMap (·.arrivals) := by
  induction actions generalizing session with
  | nil => exact (List.append_nil _).symm
  | cons action rest ih =>
    have hfirst := (perform_recorded client action session).receipts
    have hlast : (client.calls (action :: rest) session).getLast?.elim session (·.after) =
        (client.calls rest (client.perform action session).after).getLast?.elim
          (client.perform action session).after (·.after) := by
      rw [calls, List.getLast?_cons]
      cases (client.calls rest (client.perform action session).after).getLast? <;> rfl
    rw [hlast, ih, hfirst, calls, List.flatMap_cons, List.append_assoc]
    rfl

theorem recorded_of_mem (h : call ∈ calls client actions session) : client.Recorded call := by
  rw [eq_perform_of_mem h]
  exact perform_recorded client call.action call.before

/-- The token held before a call is that of the latest exchange. -/
theorem token_before (h : calls client actions session = past ++ call :: future) :
    call.before.token = ((client.latest? past).map Exchange.token).or session.token := by
  induction past generalizing actions session with
  | nil =>
    cases actions with
    | nil => cases h
    | cons action rest =>
      rw [List.nil_append, calls] at h
      cases h
      rfl
  | cons first past ih =>
    cases actions with
    | nil => cases h
    | cons action rest =>
      rw [List.cons_append, calls] at h
      injection h with hfirst hrest
      have hheld := (perform_recorded client action session).held
      rw [hfirst] at hheld
      rw [hfirst] at hrest
      have hbefore : first.before = session := by rw [← hfirst]; rfl
      rw [ih hrest, hheld, hbefore, latest?_cons]
      cases client.latest? past <;> rfl

end Client

end ManifestNotice.Chat
