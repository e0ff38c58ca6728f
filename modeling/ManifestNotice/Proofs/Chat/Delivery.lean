import ManifestNotice.Proofs.Chat.History
import ManifestNotice.Settings

/-!
# Deliveries of a chat client

The part of a delivery that needs the servers is one step of a session
(`deliver`): it asks for a token and posts the notice. `deliver_delivered` says
what arrives meanwhile.
-/

namespace ManifestNotice.Chat

open Http (Receipt)

def Session.noted (session : Session) (events : List Log.Event) : Session :=
  { session with events := session.events ++ events }

@[simp] theorem Session.noted_backend (session : Session) (events : List Log.Event) :
    (session.noted events).backend = session.backend := rfl

@[simp] theorem Session.noted_token (session : Session) (events : List Log.Event) :
    (session.noted events).token = session.token := rfl

namespace Client

def deliver (client : Client) (settings : Settings) (text : String) : Step Session Unit := do
  Session.note (.authenticating settings.serverUrl)
  client.authenticate
  Session.note (.sendingNotice settings.channelId)
  client.post settings.channelId text
  Session.note .noticeSent

theorem deliver_run (client : Client) (settings : Settings) (text : String) (session : Session) :
    (client.deliver settings text).run.run session =
      match client.token.run.run (session.noted [.authenticating settings.serverUrl]) with
      | (.error fault, after) => (.error fault, after)
      | (.ok _, after) =>
        match (client.post settings.channelId text).run.run
            (after.noted [.sendingNotice settings.channelId]) with
        | (.error fault, after) => (.error fault, after)
        | (.ok (), after) => (.ok (), after.noted [.noticeSent]) := by
  simp only [deliver, run_bind, note_run, authenticate_run]
  rw [← Session.noted]
  rcases client.token.run.run (session.noted _) with ⟨_ | _, after⟩
  · rfl
  · simp only [Except.map]
    rw [← Session.noted]
    rcases (client.post settings.channelId text).run.run (after.noted _) with ⟨_ | _, _⟩ <;> rfl

/-- What is known after a delivery: no token was had, or the notice was posted
after whatever came for the token. -/
inductive Delivered (client : Client) (settings : Settings) (text : String) (before : Session) :
    Except Fault Unit → Session → List Receipt → Prop
  | undrawn {fault after arrived} :
      client.Drawn (before.noted [.authenticating settings.serverUrl]) (.error fault) after
        arrived →
      Delivered client settings text before (.error fault) after arrived
  | posted {token middle first result sent after arrived later} :
      client.Drawn (before.noted [.authenticating settings.serverUrl]) (.ok token) middle first →
      client.Posted settings.channelId text (middle.noted [.sendingNotice settings.channelId])
        result sent arrived later →
      after.backend = sent.backend →
      Delivered client settings text before result after (first ++ (arrived ++ later))

theorem deliver_delivered (client : Client) (settings : Settings) (text : String)
    (session : Session) :
    ∃ arrived, client.Delivered settings text session
      ((client.deliver settings text).run.run session).1
      ((client.deliver settings text).run.run session).2 arrived := by
  obtain ⟨first, h⟩ := token_drawn client (session.noted [.authenticating settings.serverUrl])
  rw [deliver_run]
  generalize client.token.run.run (session.noted [.authenticating settings.serverUrl]) = drawn
    at h ⊢
  rcases drawn with ⟨fault | token, middle⟩
  · exact ⟨first, .undrawn h⟩
  · obtain ⟨arrived, later, hp⟩ := post_posted client settings.channelId text
      (middle.noted [.sendingNotice settings.channelId])
    refine ⟨first ++ (arrived ++ later), ?_⟩
    dsimp only
    generalize (client.post settings.channelId text).run.run
      (middle.noted [.sendingNotice settings.channelId]) = posted at hp ⊢
    rcases posted with ⟨fault | ⟨⟩, sent⟩ <;> exact .posted h hp rfl

theorem Delivered.receipts {client : Client} {settings : Settings} {text : String}
    {before after : Session} (h : client.Delivered settings text before result after arrived) :
    after.backend.receipts = before.backend.receipts ++ arrived := by
  cases h with
  | undrawn h => exact h.receipts
  | posted h hp hb =>
    have hfirst := h.receipts
    have hrest := hp.receipts
    rw [Session.noted_backend] at hfirst hrest
    rw [hb, hrest, hfirst, List.append_assoc]

theorem Delivered.success {client : Client} {settings : Settings} {text : String}
    {before after : Session} (h : client.Delivered settings text before (.ok ()) after arrived) :
    ∃ first middle sent a b, arrived = first ++ (a ++ b) ∧
      Arrives (tokenRequest client.credentials) first ∧
      client.Posted settings.channelId text middle (.ok ()) sent a b := by
  generalize hresult : (Except.ok () : Except Fault Unit) = result at h
  cases h with
  | undrawn => cases hresult
  | posted hd hp =>
    subst hresult
    exact ⟨_, _, _, _, _, rfl, hd.arrives, hp⟩

end Client

end ManifestNotice.Chat
