import ManifestNotice.Chat.Answer
import ManifestNotice.Chat.Token
import ManifestNotice.Credentials
import ManifestNotice.Delivery
import ManifestNotice.Http.Exchange
import ManifestNotice.Version

/-!
# The chat client

The client acts for a service account. It exchanges the account's credentials
for a token, keeps the token while it is fresh, and posts messages with it.
-/

namespace ManifestNotice.Chat

structure Client where
  credentials : Credentials
  network : Http.Network

structure Session where
  backend : Http.Backend
  token : Option Token := none
  events : List Log.Event := []
  deriving BEq, DecidableEq, Repr

namespace Session

def note (event : Log.Event) : Step Session Unit :=
  modify fun session => { session with events := session.events ++ [event] }

def advance (seconds : Nat) (session : Session) : Session :=
  { session with backend := { session.backend with clock := session.backend.clock + seconds } }

def freshToken? (session : Session) : Option Token :=
  session.token.filter (·.isFresh session.backend.clock)

def send (network : Http.Network) (request : Http.Request) : Step Session Http.Reply := do
  let (result, backend) := Http.exchange network request (← get).backend
  modify fun session => { session with backend }
  match result with
  | .ok reply => pure reply
  | .error fault => throw (.network fault)

end Session

-- ---------------------------------------------------------------------------
-- Requests
-- ---------------------------------------------------------------------------

def tokenPath : List Char := "oauth/token".toList

def messagePath : List Char := "api/http/chats/messages/send-message".toList

/-- The address of a path on the server. Slashes at the end of the server's
address do not count. -/
def addressOf (server : String) (path : List Char) : List Char :=
  Text.dropEnd (· == '/') server.toList ++ '/' :: path

def userAgent : String := "manifest-notify/" ++ version

def posting (target : Http.Target) (authorization : Bytes) (accept type : String) (body : Bytes) :
    Http.Request where
  method := .post
  url := target.url
  headers :=
    target.user ++
      [(Http.authorization, authorization), ("accept", Utf8.ofString accept),
       ("content-type", Utf8.ofString type), ("user-agent", Utf8.ofString userAgent)]
  body := body

def tokenRequest (credentials : Credentials) : Except Http.Fault Http.Request := do
  let target ← Http.Target.ofText (addressOf credentials.serverUrl tokenPath)
  let account := Http.basic (Utf8.ofString credentials.clientId) (Utf8.ofString credentials.clientSecret)
  pure (posting target account "*/*" "application/x-www-form-urlencoded"
    (Utf8.ofString "grant_type=client_credentials&scope=**"))

def payload (channel text : String) : Json :=
  .object
    [("channel".toList, .string ("id:".toList ++ channel.toList)),
     ("content".toList, .object
       [("className".toList, .string "ChatMessage.Text".toList),
        ("text".toList, .string text.toList)])]

def messageRequest (server token channel text : String) : Except Http.Fault Http.Request := do
  let target ← Http.Target.ofText (addressOf server messagePath)
  let bearer := Http.bearer token
  if !Http.isHeaderValue bearer then throw (.building none)
  pure (posting target bearer "application/json" "application/json"
    (Utf8.encode (payload channel text).write))

-- ---------------------------------------------------------------------------
-- Replies
-- ---------------------------------------------------------------------------

def grantOf (reply : Http.Reply) : Except Fault Grant :=
  match reply.text? with
  | none => .error (.network .decoding)
  | some body =>
    if reply.isSuccess then
      match Grant.ofText body.toList with
      | .ok grant => .ok grant
      | .error fault => .error (.auth ("malformed token response: " ++ fault.message body.toList))
    else if reply.status == 400 || reply.status == 401 || reply.status == 403 then
      .error (.auth (Refusal.explain body))
    else .error (.rejected reply.status (Refusal.explain body))

/-- Whether the final reply to a message takes it. What cannot be read counts
as empty. -/
def acceptedBy (reply : Http.Reply) : Except Fault Unit :=
  if reply.isSuccess then .ok ()
  else
    let reason := Refusal.explain (reply.text?.getD "")
    if reply.status == 401 then .error (.auth reason) else .error (.rejected reply.status reason)

-- ---------------------------------------------------------------------------
-- Steps
-- ---------------------------------------------------------------------------

namespace Client

def ask (client : Client) (request : Except Http.Fault Http.Request) : Step Session Http.Reply :=
  match request with
  | .ok request => Session.send client.network request
  | .error fault => throw (.network fault)

def requestToken (client : Client) : Step Session Token := do
  Session.note (.requestingToken client.credentials.serverUrl)
  let reply ← client.ask (tokenRequest client.credentials)
  let grant ← grantOf reply
  pure ⟨grant.token, Token.expiryAt (← get).backend.clock grant.lifetime⟩

/-- The token at hand while it is fresh, else a new one, which is kept. -/
def token (client : Client) : Step Session Token := do
  match (← get).freshToken? with
  | some token => pure token
  | none =>
    let token ← client.requestToken
    modify fun session => { session with token := some token }
    pure token

def authenticate (client : Client) : Step Session Unit := do
  let _ ← client.token

def post (client : Client) (channel text : String) : Step Session Unit := do
  let token ← client.token
  Session.note (.postingMessage channel (Utf8.size text.toList))
  let reply ← client.ask (messageRequest client.credentials.serverUrl token.value channel text)
  acceptedBy reply

end Client

-- ---------------------------------------------------------------------------
-- Runs
-- ---------------------------------------------------------------------------

inductive Action where
  | authenticate
  | post (channel text : String)
  | advance (seconds : Nat)
  deriving BEq, DecidableEq, Repr

namespace Client

def act (client : Client) : Action → Step Session Unit
  | .authenticate => client.authenticate
  | .post channel text => client.post channel text
  | .advance seconds => modify (Session.advance seconds)

/-- One action after the other, whatever comes of them: the result of each, and
the session after it. -/
def trace (client : Client) : List Action → Session → List (Except Fault Unit × Session)
  | [], _ => []
  | action :: rest, session =>
    let (result, session) := (client.act action).run.run session
    (result, session) :: trace client rest session

end Client

end ManifestNotice.Chat
