import ManifestNotice.Proofs.Chat.Delivery
import ManifestNotice.Proofs.Http.Unsigned

/-!
# Secrets stay unseen

Two clients of one server may have different credentials, and be granted
different tokens: whatever they do, it comes to the same, but for the
authorization of their requests (`trace_observed`). Every step takes sessions
that are alike to sessions that are alike.
-/

namespace ManifestNotice.Chat

-- ---------------------------------------------------------------------------
-- Grants
-- ---------------------------------------------------------------------------

/-- Bodies that grant tokens for the same time. The tokens may be different
ones, as long as a header can hold them. -/
def SameGrant (body other : Bytes) : Prop :=
  ∃ grant different, Grant.ofText (Utf8.decodeLossy body).toList = .ok grant ∧
    Grant.ofText (Utf8.decodeLossy other).toList = .ok different ∧
    grant.lifetime = different.lifetime ∧
    Http.isHeaderValue (Utf8.ofString grant.token) ∧
    Http.isHeaderValue (Utf8.ofString different.token)

abbrev AlikeReplies := Http.Reply.Alike SameGrant

/-- Whether both tokens or none can stand in a header. -/
def SameUse (token other : String) : Prop :=
  Http.isHeaderValue (Http.bearer token) = Http.isHeaderValue (Http.bearer other)

theorem isHeaderValue_bearer (h : Http.isHeaderValue (Utf8.ofString token)) :
    Http.isHeaderValue (Http.bearer token) := by
  unfold Http.isHeaderValue at h ⊢
  rw [Http.bearer, List.all_append, h, Bool.and_true]
  decide

structure Grant.Alike (a b : Grant) : Prop where
  lifetime : a.lifetime = b.lifetime
  use : SameUse a.token b.token

theorem Grant.Alike.refl (grant : Grant) : grant.Alike grant := ⟨rfl, rfl⟩

theorem grantOf_refl (reply : Http.Reply) : Agree Grant.Alike (grantOf reply) (grantOf reply) := by
  cases grantOf reply with
  | error fault => exact .error fault
  | ok grant => exact .ok (.refl grant)

theorem grantOf_of_text {reply : Http.Reply} (ht : reply.text? = some body) (hs : reply.isSuccess)
    (hg : Grant.ofText body.toList = .ok grant) : grantOf reply = .ok grant := by
  rw [grantOf, ht]
  simp only [hs, if_true, hg]

theorem grantOf_alike (h : AlikeReplies reply answer) :
    Agree Grant.Alike (grantOf reply) (grantOf answer) := by
  cases h with
  | same => exact grantOf_refl reply
  | @success body hs hbody =>
    by_cases hread : reply.hasBody ∧ reply.cutShort = false
    · obtain ⟨grant, different, hgrant, hdifferent, hlifetime, hlegal, hother⟩ := hbody
      have htext (body : Bytes) :
          ({ reply with body } : Http.Reply).text? = some (Utf8.decodeLossy body) := by
        have hhas : ({ reply with body } : Http.Reply).hasBody = true := hread.1
        rw [Http.Reply.text?, hhas]
        simp [hread.2]
      rw [grantOf_of_text (htext reply.body) hs hgrant, grantOf_of_text (htext body) hs hdifferent]
      exact .ok ⟨hlifetime, (isHeaderValue_bearer hlegal).trans (isHeaderValue_bearer hother).symm⟩
    · -- neither of the bodies is read
      have htext : ({ reply with body } : Http.Reply).text? = reply.text? := by
        unfold Http.Reply.text? Http.Reply.hasBody at *
        simp only [Bool.not_eq_true', Decidable.not_and_iff_or_not] at hread ⊢
        rcases hread with h | h <;> simp_all
      have hsame : grantOf { reply with body } = grantOf reply := by
        unfold grantOf
        rw [htext]
        rfl
      rw [hsame]
      exact grantOf_refl reply

theorem acceptedBy_alike (h : AlikeReplies reply answer) : acceptedBy reply = acceptedBy answer := by
  cases h with
  | same => rfl
  | success hs => rw [acceptedBy, acceptedBy, if_pos hs, if_pos (by exact hs)]

-- ---------------------------------------------------------------------------
-- Requests
-- ---------------------------------------------------------------------------

/-- The same request but for its authorization. -/
def AlikeRequests (a b : Http.Request) : Prop := a.unsigned = b.unsigned

theorem posting_unsigned (target : Http.Target) (authorization other : Bytes) (accept type : String)
    (body : Bytes) :
    AlikeRequests (posting target authorization accept type body)
      (posting target other accept type body) := by
  refine Http.Request.unsigned_eq_iff.mpr ⟨rfl, rfl, ?_, rfl⟩
  unfold posting
  rw [Http.Headers.without_append, Http.Headers.without_append, Http.Headers.without_cons_self,
    Http.Headers.without_cons_self]

theorem tokenRequest_alike {a b : Credentials} (h : a.serverUrl = b.serverUrl) :
    Agree AlikeRequests (tokenRequest a) (tokenRequest b) := by
  unfold tokenRequest
  rw [h]
  cases Http.Target.ofText (addressOf b.serverUrl tokenPath) with
  | error fault => exact .error fault
  | ok target => exact .ok (posting_unsigned target _ _ _ _ _)

theorem messageRequest_alike (server channel text : String) (h : SameUse token other) :
    Agree AlikeRequests (messageRequest server token channel text)
      (messageRequest server other channel text) := by
  unfold messageRequest
  cases Http.Target.ofText (addressOf server messagePath) with
  | error fault => exact .error fault
  | ok target =>
    have h : Http.isHeaderValue (Http.bearer token) = Http.isHeaderValue (Http.bearer other) := h
    simp only [bind, Except.bind, h]
    cases Http.isHeaderValue (Http.bearer other) with
    | false => exact .error _
    | true => exact .ok (posting_unsigned target _ _ _ _ _)

-- ---------------------------------------------------------------------------
-- Sessions
-- ---------------------------------------------------------------------------

structure Token.Alike (a b : Token) : Prop where
  expiry : a.expiry = b.expiry
  use : SameUse a.value b.value

structure Session.Alike (a b : Session) : Prop where
  backend : Http.Backend.Alike SameGrant a.backend b.backend
  token : Option.Rel Token.Alike a.token b.token
  events : a.events = b.events

/-- What can be seen of a session: the requests but for their authorization, and
the events. -/
def Session.seen (session : Session) : List Http.Trail × List Log.Event :=
  (session.backend.receipts.map Http.Receipt.trail, session.events)

theorem Session.Alike.seen {a b : Session} (h : a.Alike b) : a.seen = b.seen :=
  Prod.ext h.backend.trail h.events

theorem Session.Alike.noted {a b : Session} (h : a.Alike b) (events : List Log.Event) :
    (a.noted events).Alike (b.noted events) where
  backend := h.backend
  token := h.token
  events := congrArg (· ++ events) h.events

theorem Token.rel_or {held kept first second : Option Token} (h : Option.Rel Alike held kept)
    (hg : Option.Rel Alike first second) :
    Option.Rel Alike (first.or held) (second.or kept) := by
  cases hg with
  | none => exact h
  | some ht => exact .some ht

structure Client.Alike (a b : Client) : Prop where
  network : a.network = b.network
  server : a.credentials.serverUrl = b.credentials.serverUrl

theorem Session.Alike.freshToken? {a b : Session} (h : a.Alike b) :
    Option.Rel Token.Alike a.freshToken? b.freshToken? := by
  have htoken := h.token
  unfold Session.freshToken?
  rw [h.backend.clock]
  generalize a.token = held at htoken
  generalize b.token = kept at htoken
  cases htoken with
  | none => exact .none
  | @some token other ht =>
    have hfresh : token.isFresh b.backend.clock = other.isFresh b.backend.clock := by
      rw [Token.isFresh, Token.isFresh, ht.expiry]
    rw [Option.filter_some, Option.filter_some, hfresh]
    split
    · exact .some ht
    · exact .none

namespace Client

section
variable {client other : Client} {a b : Session}

theorem asked_alike (hc : client.Alike other) {request : Except Http.Fault Http.Request}
    {second : Except Http.Fault Http.Request} (hr : Agree AlikeRequests request second)
    {before start : Http.Backend} (hb : Http.Backend.Alike SameGrant before start) :
    AgreeIn (Http.Backend.Alike SameGrant) AlikeReplies (client.asked request before)
      (other.asked second start) := by
  cases hr with
  | error fault => exact ⟨.error _, hb⟩
  | ok hr =>
    obtain ⟨hreply, hafter⟩ := Http.exchange_alike client.network hr hb
    unfold asked
    rw [← hc.network]
    exact ⟨hreply.mapError _, hafter⟩

theorem exchanged_alike (hc : client.Alike other) {before start : Http.Backend}
    (hb : Http.Backend.Alike SameGrant before start) :
    AgreeIn (Http.Backend.Alike SameGrant) Token.Alike (client.exchanged before)
      (other.exchanged start) := by
  obtain ⟨hreply, hafter⟩ := asked_alike hc (tokenRequest_alike hc.server) hb
  unfold exchanged
  generalize client.asked (tokenRequest client.credentials) before = done at hreply hafter
  generalize other.asked (tokenRequest other.credentials) start = second at hreply hafter
  exact ⟨hreply.bind fun h => (grantOf_alike h).map fun hg =>
    ⟨congrArg₂ Token.expiryAt hafter.clock hg.lifetime, hg.use⟩, hafter⟩

theorem token_alike (hc : client.Alike other) (h : a.Alike b) :
    AgreeIn Session.Alike Token.Alike (client.token.run.run a) (other.token.run.run b) := by
  have hfresh := h.freshToken?
  rw [token_run, token_run, hc.server, h.events]
  generalize a.freshToken? = first at hfresh
  generalize b.freshToken? = second at hfresh
  cases hfresh with
  | some ht => exact ⟨.ok ht, h⟩
  | none =>
    obtain ⟨htoken, hafter⟩ := exchanged_alike hc h.backend
    generalize client.exchanged a.backend = drawn at htoken hafter
    generalize other.exchanged b.backend = received at htoken hafter
    exact ⟨htoken, hafter, Token.rel_or h.token htoken.toOption, rfl⟩

theorem note_alike (h : a.Alike b) (event : Log.Event) :
    AgreeIn Session.Alike Eq ((Session.note event).run.run a) ((Session.note event).run.run b) :=
  ⟨.refl (.ok ()), h.noted [event]⟩

theorem ask_alike (hc : client.Alike other) {request second : Except Http.Fault Http.Request}
    (hr : Agree AlikeRequests request second) (h : a.Alike b) :
    AgreeIn Session.Alike AlikeReplies ((client.ask request).run.run a)
      ((other.ask second).run.run b) := by
  rw [ask_run, ask_run]
  obtain ⟨hreply, hafter⟩ := asked_alike hc hr h.backend
  exact ⟨hreply, hafter, h.token, h.events⟩

theorem authenticate_alike (hc : client.Alike other) (h : a.Alike b) :
    AgreeIn Session.Alike Eq (client.authenticate.run.run a) (other.authenticate.run.run b) := by
  rw [authenticate_run, authenticate_run]
  exact ⟨(token_alike hc h).1.map fun _ => rfl, (token_alike hc h).2⟩

theorem post_alike (hc : client.Alike other) (h : a.Alike b) (channel text : String) :
    AgreeIn Session.Alike Eq ((client.post channel text).run.run a)
      ((other.post channel text).run.run b) := by
  unfold post
  refine (token_alike hc h).bind fun ht h => (note_alike h _).bind fun _ h => ?_
  rw [← hc.server]
  refine (ask_alike hc (messageRequest_alike _ channel text ht.use) h).bind fun hr h => ?_
  rw [acceptedBy_alike hr]
  exact .ofExcept (.refl _) h

theorem deliver_alike (hc : client.Alike other) (h : a.Alike b) (settings : Settings)
    (text : String) :
    AgreeIn Session.Alike Eq ((client.deliver settings text).run.run a)
      ((other.deliver settings text).run.run b) :=
  (note_alike h _).bind fun _ h => (authenticate_alike hc h).bind fun _ h =>
    (note_alike h _).bind fun _ h => (post_alike hc h _ text).bind fun _ h => note_alike h _

theorem advance_alike (h : a.Alike b) (seconds : Nat) :
    (a.advance seconds).Alike (b.advance seconds) where
  backend := ⟨h.backend.script, congrArg (· + seconds) h.backend.clock, h.backend.trail⟩
  token := h.token
  events := h.events

theorem act_alike (hc : client.Alike other) (h : a.Alike b) (action : Action) :
    AgreeIn Session.Alike Eq ((client.act action).run.run a) ((other.act action).run.run b) := by
  cases action with
  | advance seconds => exact ⟨.refl (.ok ()), advance_alike h seconds⟩
  | authenticate => exact authenticate_alike hc h
  | post channel text => exact post_alike hc h channel text

end

def observed (done : Except Fault Unit × Session) :
    Except Fault Unit × List Http.Trail × List Log.Event :=
  (done.1, done.2.seen)

theorem trace_observed {client other : Client} {a b : Session} (hc : client.Alike other)
    (h : a.Alike b) (actions : List Action) :
    (client.trace actions a).map observed = (other.trace actions b).map observed := by
  induction actions generalizing a b with
  | nil => rfl
  | cons action rest ih =>
    have hstep := act_alike hc h action
    exact congrArg₂ List.cons (Prod.ext hstep.1.eq hstep.2.seen) (ih hstep.2)

end Client

end ManifestNotice.Chat
