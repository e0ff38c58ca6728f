import ManifestNotice.Proofs.Chat.Delivery
import ManifestNotice.Proofs.Chat.Due
import Mathlib.Data.List.Infix

/-!
# Events of a delivery

A delivery notes what it is about to do. Where it draws a token the credentials
are exchanged in a session whose latest event says so (`exchangesIn`). `Logged`
has a case for each way in which a delivery ends that starts without a token, and
`deliver_logged` says that there is no other.
-/

namespace ManifestNotice.Chat

open Http (Receipt)
open Log (Event)

namespace Client

-- ---------------------------------------------------------------------------
-- Exchanges
-- ---------------------------------------------------------------------------

/-- The session in which drawing a token exchanges the credentials, if it does. -/
def exchangesIn (client : Client) (session : Session) : List Session :=
  match session.freshToken? with
  | some _ => []
  | none => [session.noted [.requestingToken client.credentials.serverUrl]]

/-- The session in which a delivery that has drawn a token goes on to post. -/
def readyToPost? (client : Client) (settings : Settings) (session : Session) : Option Session :=
  match client.token.run.run (session.noted [.authenticating settings.serverUrl]) with
  | (.ok _, after) => some (after.noted [.sendingNotice settings.channelId])
  | (.error _, _) => none

def exchangesOf (client : Client) (settings : Settings) (session : Session) : List Session :=
  client.exchangesIn (session.noted [.authenticating settings.serverUrl]) ++
    (client.readyToPost? settings session).elim [] client.exchangesIn

def tokenToPost? (client : Client) (settings : Settings) (session : Session) : Option Token :=
  (client.readyToPost? settings session).bind fun ready => (client.token.run.run ready).1.toOption

def arrivedIn (client : Client) (session : Session) : List Receipt :=
  (client.exchanged session.backend).2.receipts.drop session.backend.receipts.length

section
variable (client : Client) (session : Session)

theorem arrivedIn_eq :
    (client.exchanged session.backend).2.receipts =
      session.backend.receipts ++ client.arrivedIn session := by
  obtain ⟨arrived, -, hr, -⟩ := client.exchanged_arrived session.backend
  rw [arrivedIn, hr, List.drop_left]

theorem arrivedIn_asks : client.Asks 1 (client.arrivedIn session) := by
  obtain ⟨arrived, hr, hasks⟩ := client.exchanged_asks session.backend
  rw [arrivedIn, hr, List.drop_left]
  exact hasks

theorem token_arrived :
    (client.token.run.run session).2.backend.receipts =
      session.backend.receipts ++ (client.exchangesIn session).flatMap client.arrivedIn := by
  rw [token_run, exchangesIn]
  cases session.freshToken? with
  | some token => exact (List.append_nil _).symm
  | none =>
    rw [List.flatMap_singleton]
    exact client.arrivedIn_eq session

theorem post_arrived (channel text : String) :
    ∃ later, ((client.post channel text).run.run session).2.backend.receipts =
      (client.token.run.run session).2.backend.receipts ++ later ∧ client.Aside later := by
  rw [post_run]
  rcases client.token.run.run session with ⟨fault | token, after⟩
  · exact ⟨[], (List.append_nil _).symm, .nil⟩
  · obtain ⟨later, h⟩ := asked_arrived client
      (messageRequest client.credentials.serverUrl token.value channel text) after.backend
    exact ⟨later, h.receipts, aside_of_message h.arrives⟩

theorem deliver_arrived (settings : Settings) (text : String) :
    ∃ later, ((client.deliver settings text).run.run session).2.backend.receipts =
      session.backend.receipts ++
        ((client.exchangesOf settings session).flatMap client.arrivedIn ++ later) ∧
      client.Aside later := by
  have htoken := client.token_arrived (session.noted [.authenticating settings.serverUrl])
  rw [deliver_run, exchangesOf, readyToPost?]
  generalize client.token.run.run (session.noted [.authenticating settings.serverUrl]) = drawn
    at htoken ⊢
  rcases drawn with ⟨fault | token, after⟩
  · exact ⟨[], by simpa using htoken, .nil⟩
  · obtain ⟨later, hpost, haside⟩ := client.post_arrived
      (after.noted [.sendingNotice settings.channelId]) settings.channelId text
    refine ⟨later, ?_, haside⟩
    rw [client.token_arrived] at hpost
    dsimp only at htoken ⊢
    generalize (client.post settings.channelId text).run.run (after.noted _) = posted at hpost ⊢
    rcases posted with ⟨_ | _, sent⟩ <;> simpa [htoken] using hpost

end

-- ---------------------------------------------------------------------------
-- Logs
-- ---------------------------------------------------------------------------

section
variable (client : Client) (settings : Settings) (text : String)

def opening : List Event :=
  [.authenticating settings.serverUrl, .requestingToken client.credentials.serverUrl]

def reopening : List Event :=
  [.sendingNotice settings.channelId, .requestingToken client.credentials.serverUrl]

def posting (renews : Bool) : List Event :=
  opening client settings ++
    (if renews then reopening client settings else [.sendingNotice settings.channelId]) ++
    [.postingMessage settings.channelId (Utf8.size text.toList)]

def marks (renews : Bool) : List (List Event) :=
  opening client settings ::
    if renews then [opening client settings ++ reopening client settings] else []

/-- How a delivery ends: what had been noted at its exchanges, the token it posts
with, its result and all that it notes. -/
inductive Logged : List (List Event) → Option Token → Except Fault Unit → List Event → Prop
  | unauthenticated (fault) :
      Logged (marks client settings false) none (.error fault) (opening client settings)
  | unrenewed (fault) :
      Logged (marks client settings true) none (.error fault)
        (opening client settings ++ reopening client settings)
  | unsent (renews token fault) :
      Logged (marks client settings renews) (some token) (.error fault)
        (posting client settings text renews)
  | sent (renews token) :
      Logged (marks client settings renews) (some token) (.ok ())
        (posting client settings text renews ++ [.noticeSent])

end

section
variable (client : Client) {session : Session}

/-- What a post notes: an exchange if there is no fresh token, and the message if
there is one then. -/
inductive PostLogged (client : Client) (ready : Session) (event : Event) :
    List Session → Option Token → Except Fault Unit → List Event → Prop
  | undrawn (fault) :
      PostLogged client ready event [ready.noted [.requestingToken client.credentials.serverUrl]]
        none (.error fault) [.requestingToken client.credentials.serverUrl]
  | drawn (renews : Bool) (token result) :
      PostLogged client ready event
        (if renews then [ready.noted [.requestingToken client.credentials.serverUrl]] else [])
        (some token) result
        (if renews then [.requestingToken client.credentials.serverUrl, event] else [event])

theorem post_logged (channel text : String) (ready : Session) :
    ∃ noted, client.PostLogged ready (.postingMessage channel (Utf8.size text.toList))
        (client.exchangesIn ready) (client.token.run.run ready).1.toOption
        ((client.post channel text).run.run ready).1 noted ∧
      ((client.post channel text).run.run ready).2.events = ready.events ++ noted := by
  rw [post_run, token_run, exchangesIn]
  cases ready.freshToken? with
  | some token => exact ⟨_, .drawn false token _, rfl⟩
  | none =>
    rcases client.exchanged ready.backend with ⟨fault | token, backend⟩
    · exact ⟨_, .undrawn fault, rfl⟩
    · exact ⟨_, .drawn true token _, List.append_assoc ..⟩

theorem deliver_logged (settings : Settings) (text : String) (h : session.token = none) :
    ∃ marks noted,
      client.Logged settings text marks (client.tokenToPost? settings session)
        ((client.deliver settings text).run.run session).1 noted ∧
      (client.exchangesOf settings session).map Session.events =
        marks.map (session.events ++ ·) ∧
      ((client.deliver settings text).run.run session).2.events = session.events ++ noted := by
  have hnone : (session.noted [.authenticating settings.serverUrl]).freshToken? = none := by
    simp [Session.freshToken?, Session.noted, h]
  rw [deliver_run, tokenToPost?, exchangesOf, readyToPost?, exchangesIn, hnone, token_run, hnone]
  simp only [Session.noted_backend]
  rcases client.exchanged session.backend with ⟨fault | token, backend⟩
  · refine ⟨_, _, .unauthenticated fault, ?_, ?_⟩
    · simp [marks, opening, Session.noted]
    · simp [opening, Session.noted]
  · dsimp only
    generalize hready : Session.noted { backend, token := _, events := _ } _ = ready
    have hevents : ready.events = session.events ++
        (opening client settings ++ [.sendingNotice settings.channelId]) := by
      rw [← hready]
      simp [opening, Session.noted]
    obtain ⟨noted, hpost, hafter⟩ := client.post_logged settings.channelId text ready
    simp only [Option.elim_some, Option.bind_some]
    generalize (client.post settings.channelId text).run.run ready = posted at hpost hafter ⊢
    generalize (client.token.run.run ready).1.toOption = drawn at hpost ⊢
    generalize client.exchangesIn ready = exchanges at hpost ⊢
    rcases posted with ⟨fault | ⟨⟩, after⟩
    · dsimp only at hafter
      cases hpost with
      | undrawn =>
        refine ⟨_, _, .unrenewed fault, ?_, ?_⟩
        · simp [marks, opening, reopening, Session.noted, hevents]
        · simp [hafter, hevents, opening, reopening]
      | drawn renews token =>
        refine ⟨_, _, .unsent renews token fault, ?_, ?_⟩
        · cases renews <;> simp [marks, opening, reopening, Session.noted, hevents]
        · cases renews <;> simp [hafter, hevents, posting, opening, reopening]
    · dsimp only at hafter
      cases hpost with
      | drawn renews token =>
        refine ⟨_, _, .sent renews token, ?_, ?_⟩
        · cases renews <;> simp [marks, opening, reopening, Session.noted, hevents]
        · cases renews <;> simp [hafter, hevents, posting, opening, reopening, Session.noted]

end

end Client

-- ---------------------------------------------------------------------------
-- What a log tells
-- ---------------------------------------------------------------------------

def endsInExchange (events : List Event) : Bool := events.getLast?.any notesExchange

def isPosting : Event → Bool
  | .postingMessage .. => true
  | _ => false

/-- The names of the events of a delivery that succeeds, in order. The token may
have to be renewed before the message. -/
def names (renews : Bool) : List String :=
  ["authenticating service account", "requesting service account token",
    "sending manifest notification"] ++
  (if renews then ["requesting service account token"] else []) ++
  ["posting chat message", "notification sent"]

/-- In front of a log, other events do not matter. -/
theorem inits_append {front : List Event} (h : ∀ event ∈ front, notesExchange event = false)
    (noted : List Event) :
    (front ++ noted).inits.filter endsInExchange =
      (noted.inits.filter endsInExchange).map (front ++ ·) := by
  induction front with
  | nil => simp
  | cons event front ih =>
    obtain ⟨hevent, hfront⟩ := List.forall_mem_cons.mp h
    have hcons (events : List Event) :
        endsInExchange (event :: events) = endsInExchange events := by
      cases events with
      | nil => simpa [endsInExchange] using hevent
      | cons next rest => simp [endsInExchange]
    have hnil : endsInExchange [] = false := rfl
    rw [List.cons_append, List.inits_cons, List.filter_cons_of_neg (by simp [hnil]),
      List.filter_map]
    simp only [Function.comp_def, hcons, ih hfront, List.map_map, List.cons_append]

namespace Client.Logged

section
variable {client : Client} {settings : Settings} {text : String} {marks : List (List Event)}
  {token : Option Token} {result : Except Fault Unit} {noted : List Event}

theorem noticeSent_iff (h : client.Logged settings text marks token result noted) :
    .noticeSent ∈ noted ↔ result = .ok () := by
  cases h with
  | unauthenticated fault => simp [opening]
  | unrenewed fault => simp [opening, reopening]
  | unsent renews => cases renews <;> simp [opening, reopening, posting]
  | sent renews => cases renews <;> simp [opening, reopening, posting]

theorem noticeSent_last (h : client.Logged settings text marks token (.ok ()) noted) :
    ∃ front, noted = front ++ [.noticeSent] ∧ .noticeSent ∉ front := by
  cases h with
  | sent renews =>
    refine ⟨_, rfl, ?_⟩
    cases renews <;> simp [opening, reopening, posting]

theorem readingCommit_not_mem (h : client.Logged settings text marks token result noted) :
    .readingCommit ∉ noted := by
  cases h with
  | unauthenticated fault => simp [opening]
  | unrenewed fault => simp [opening, reopening]
  | unsent renews => cases renews <;> simp [opening, reopening, posting]
  | sent renews => cases renews <;> simp [opening, reopening, posting]

theorem marks_eq (h : client.Logged settings text marks token result noted) :
    noted.inits.filter endsInExchange = marks := by
  cases h with
  | unauthenticated fault => rfl
  | unrenewed fault => rfl
  | unsent renews => cases renews <;> rfl
  | sent renews => cases renews <;> rfl

theorem posting_eq (h : client.Logged settings text marks token result noted) :
    noted.filter isPosting =
      token.elim [] fun _ => [.postingMessage settings.channelId (Utf8.size text.toList)] := by
  cases h with
  | unauthenticated fault => rfl
  | unrenewed fault => rfl
  | unsent renews => cases renews <;> rfl
  | sent renews => cases renews <;> rfl

theorem names_eq (h : client.Logged settings text marks token (.ok ()) noted) :
    ∃ renews, noted.map Event.message = names renews := by
  cases h with
  | sent renews =>
    refine ⟨renews, ?_⟩
    cases renews <;> rfl

/-- A delivery that fails breaks off the log of one that succeeds. -/
theorem names_broken_off {fault : Fault}
    (h : client.Logged settings text marks token (.error fault) noted) :
    ∃ renews, noted.map Event.message <+: names renews ∧
      noted.map Event.message ≠ names renews := by
  cases h with
  | unauthenticated => exact ⟨false, ⟨_, rfl⟩, by simp [opening, names]⟩
  | unrenewed => exact ⟨true, ⟨_, rfl⟩, by simp [opening, reopening, names]⟩
  | unsent renews =>
    refine ⟨renews, ⟨["notification sent"], ?_⟩, ?_⟩
    · cases renews <;> rfl
    · cases renews <;> simp [opening, reopening, posting, names]

end

end Client.Logged

end ManifestNotice.Chat
