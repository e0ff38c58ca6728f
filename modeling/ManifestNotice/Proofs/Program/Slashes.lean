import ManifestNotice.Proofs.Program.Steps

/-!
# Slashes behind the server

Clients whose servers are told apart only by slashes at the end ask for the same
addresses, so whatever they do comes to the same (`slashes_do_not_count`). The
text of the server itself reaches nothing but the events: a run with the other
server is the run, told with that server.
-/

namespace ManifestNotice

-- ---------------------------------------------------------------------------
-- Events
-- ---------------------------------------------------------------------------

/-- The event, told with another server. -/
def Log.Event.naming (server : String) : Log.Event → Log.Event
  | .authenticating _ => .authenticating server
  | .requestingToken _ => .requestingToken server
  | event => event

/-- The events cannot be told apart but by what the field of the server says. -/
structure Log.Event.SameButServer (event other : Log.Event) : Prop where
  level : event.level = other.level
  target : event.target = other.target
  message : event.message = other.message
  names : event.fields.map Prod.fst = other.fields.map Prod.fst
  fields : event.fields.filter (·.1 != "server") = other.fields.filter (·.1 != "server")

theorem Log.Event.sameButServer_naming (server : String) (event : Log.Event) :
    event.SameButServer (event.naming server) := by
  cases event <;> exact ⟨rfl, rfl, rfl, rfl, rfl⟩

namespace Chat.Session

def naming (server : String) (session : Session) : Session :=
  { session with events := session.events.map (Log.Event.naming server) }

theorem naming_noted (server : String) (session : Session) (event : Log.Event) :
    (session.noted [event]).naming server =
      (session.naming server).noted [event.naming server] := by
  simp only [naming, noted, List.map_append, List.map_singleton]

end Chat.Session

def Run.naming (server : String) (run : Run) : Run :=
  { run with session := run.session.naming server }

-- ---------------------------------------------------------------------------
-- Addresses
-- ---------------------------------------------------------------------------

theorem Text.dropEnd_append_of_forall {p : Char → Bool} {ends : List Char} (h : ∀ c ∈ ends, p c)
    (text : List Char) : dropEnd p (text ++ ends) = dropEnd p text := by
  obtain ⟨lost, hsplit, hlost⟩ := exists_dropEnd_append p text
  calc dropEnd p (text ++ ends)
    _ = dropEnd p (dropEnd p text ++ (lost ++ ends)) := by rw [← List.append_assoc, ← hsplit]
    _ = dropEnd p text :=
      dropEnd_append (List.forall_mem_append.mpr ⟨hlost, h⟩) fun c hc => not_getLast_dropEnd hc

namespace Chat

def slashed (server : String) (count : Nat) : String :=
  server ++ String.ofList (List.replicate count '/')

theorem addressOf_slashed (server : String) (count : Nat) :
    addressOf (slashed server count) = addressOf server := by
  have hslashes : ∀ c ∈ List.replicate count '/', (c == '/') = true := by
    intro c hc
    rw [List.eq_of_mem_replicate hc]
    rfl
  funext path
  rw [addressOf, slashed, String.toList_append, String.toList_ofList,
    Text.dropEnd_append_of_forall hslashes]
  rfl

-- ---------------------------------------------------------------------------
-- Clients
-- ---------------------------------------------------------------------------

namespace Client

def moved (client : Client) (server : String) : Client :=
  { client with credentials := { client.credentials with serverUrl := server } }

section
variable {client : Client} {server : String}
  (h : addressOf server = addressOf client.credentials.serverUrl)
include h

theorem exchanged_moved (backend : Http.Backend) :
    (client.moved server).exchanged backend = client.exchanged backend := by
  have hrequest : tokenRequest (client.moved server).credentials =
      tokenRequest client.credentials := by
    unfold tokenRequest moved
    rw [h]
  unfold exchanged
  rw [hrequest]
  rfl

theorem token_moved (session : Session) :
    (client.moved server).token.run.run (session.naming server) =
      Prod.map id (Session.naming server) (client.token.run.run session) := by
  have hfresh : (session.naming server).freshToken? = session.freshToken? := rfl
  rw [token_run, token_run, hfresh]
  cases session.freshToken? with
  | some token => rfl
  | none =>
    dsimp only
    rw [exchanged_moved h]
    simp [Session.naming, Log.Event.naming, moved]

theorem authenticate_moved (session : Session) :
    (client.moved server).authenticate.run.run (session.naming server) =
      Prod.map id (Session.naming server) (client.authenticate.run.run session) := by
  rw [authenticate_run, authenticate_run, token_moved h]
  rfl

theorem post_moved (channel text : String) (session : Session) :
    ((client.moved server).post channel text).run.run (session.naming server) =
      Prod.map id (Session.naming server) ((client.post channel text).run.run session) := by
  have hmessage (token : String) :
      messageRequest (client.moved server).credentials.serverUrl token channel text =
        messageRequest client.credentials.serverUrl token channel text := by
    unfold messageRequest moved
    rw [h]
  have hasked : (client.moved server).asked = client.asked := rfl
  rw [post_run, post_run, token_moved h]
  rcases client.token.run.run session with ⟨fault | token, after⟩
  · rfl
  · simp [Session.naming, Log.Event.naming, hmessage, hasked]

theorem act_moved (action : Action) (session : Session) :
    ((client.moved server).act action).run.run (session.naming server) =
      Prod.map id (Session.naming server) ((client.act action).run.run session) := by
  cases action with
  | authenticate => exact authenticate_moved h session
  | post channel text => exact post_moved h channel text session
  | advance seconds => rfl

theorem trace_moved (actions : List Action) (session : Session) :
    (client.moved server).trace actions (session.naming server) =
      (client.trace actions session).map (Prod.map id (Session.naming server)) := by
  induction actions generalizing session with
  | nil => rfl
  | cons action rest ih =>
    rw [trace, trace, act_moved h]
    exact congrArg (List.cons _) (ih _)

theorem deliver_moved (settings : Settings) (text : String) (session : Session) :
    ((client.moved server).deliver { settings with serverUrl := server } text).run.run
        (session.naming server) =
      Prod.map id (Session.naming server) ((client.deliver settings text).run.run session) := by
  have htoken : (client.moved server).token.run.run
      ((session.naming server).noted [.authenticating server]) =
      Prod.map id (Session.naming server)
        (client.token.run.run (session.noted [.authenticating settings.serverUrl])) := by
    rw [← token_moved h, Session.naming_noted]
    rfl
  rw [deliver_run, deliver_run, htoken]
  rcases client.token.run.run (session.noted _) with ⟨fault | token, after⟩
  · rfl
  · have hpost : ((client.moved server).post settings.channelId text).run.run
        ((after.naming server).noted [.sendingNotice settings.channelId]) =
        Prod.map id (Session.naming server)
          ((client.post settings.channelId text).run.run
            (after.noted [.sendingNotice settings.channelId])) := by
      rw [← post_moved h, Session.naming_noted]
      rfl
    simp only [Prod.map, id_eq]
    rw [hpost]
    rcases (client.post settings.channelId text).run.run _ with ⟨fault | ⟨⟩, sent⟩
    · rfl
    · exact congrArg (Prod.mk _) (Session.naming_noted server sent .noticeSent).symm

end

end Client

end Chat

-- ---------------------------------------------------------------------------
-- Deliveries
-- ---------------------------------------------------------------------------

open Chat (Session Client slashed addressOf)

theorem Run.chat_naming {step other : Step Session α} {server : String}
    (h : ∀ session, other.run.run (session.naming server) =
      Prod.map id (Session.naming server) (step.run.run session)) (run : Run) :
    (chat other).run.run (run.naming server) =
      Prod.map id (Run.naming server) ((chat step).run.run run) := by
  have hsession := h run.session
  rw [chat_run, chat_run]
  exact congrArg (fun done => (done.1, ({ run with session := done.2 } : Run))) hsession

theorem delivery_moved {client : Client} {server : String}
    (h : addressOf server = addressOf client.credentials.serverUrl) (machine : Machine)
    (variant : Variant) (settings : Settings) (run : Run) :
    (Delivery.run (machine.services (client.moved server)) variant
        { settings with serverUrl := server }).run.run (run.naming server) =
      Prod.map id (Run.naming server)
        ((Delivery.run (machine.services client) variant settings).run.run run) := by
  have hnotice : machine.notice variant { settings with serverUrl := server } =
      machine.notice variant settings := by
    cases variant <;> rfl
  have hcomposed (calls : List Commit.Call) :
      ((run.naming server).noted variant.announcement).called calls =
        ((run.noted variant.announcement).called calls).naming server := by
    cases variant <;>
      simp [Run.noted, Run.called, Run.naming, Session.naming, Variant.announcement,
        Log.Event.naming]
  rw [machine.delivery_run, machine.delivery_run, hnotice, hcomposed]
  cases (machine.notice variant settings).1 with
  | error fault => rfl
  | ok text => exact Run.chat_naming (Client.deliver_moved h settings text) _

/-- Whatever a client does, and whatever is delivered with it: with slashes
behind its server it comes to the same, told with that server. Of what is told,
that changes the field of the server only. -/
theorem slashes_do_not_count (client : Client) (count : Nat) :
    let server := slashed client.credentials.serverUrl count
    (∀ event : Log.Event, event.SameButServer (event.naming server)) ∧
    (∀ actions backend token,
      (client.moved server).trace actions { backend, token } =
        (client.trace actions { backend, token }).map (Prod.map id (Session.naming server))) ∧
    ∀ (machine : Machine) variant settings backend token calls printed,
      let run : Run := { session := { backend, token }, calls, printed }
      (Delivery.run (machine.services (client.moved server)) variant
          { settings with serverUrl := server }).run.run run =
        Prod.map id (Run.naming server)
          ((Delivery.run (machine.services client) variant settings).run.run run) := by
  intro server
  have h : addressOf server = addressOf client.credentials.serverUrl :=
    Chat.addressOf_slashed client.credentials.serverUrl count
  refine ⟨Log.Event.sameButServer_naming server, fun actions backend token => ?_, ?_⟩
  · exact Client.trace_moved h actions { backend, token }
  · intro machine variant settings backend token calls printed run
    exact delivery_moved h machine variant settings run

end ManifestNotice
