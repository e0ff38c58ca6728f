import ManifestNotice.Settings
import ManifestNotice.Text.Quoted
import ManifestNotice.Text.Utf8

/-!
# Credentials

The service account and the server it belongs to. Both parts of the account
come from the environment and must not be blank. Shown, the secret is left out.
-/

namespace ManifestNotice

structure Credentials where
  clientId : String
  clientSecret : String
  serverUrl : String
  deriving BEq, DecidableEq, Repr

/-- The variable that is missing, blank or no text. -/
structure MissingVariable where
  name : String
  deriving BEq, DecidableEq, Repr

def MissingVariable.message (fault : MissingVariable) : String :=
  fault.name ++ " env var not set; service-account credentials are required"

abbrev Environment := List (String × Bytes)

def Environment.text? (env : Environment) (name : String) : Option String :=
  (env.find? (·.1 == name)).bind fun e => Utf8.decode? e.2

namespace Credentials

def idVariable : String := "SPACE_CLIENT_ID"

def secretVariable : String := "SPACE_CLIENT_SECRET"

def require (lookup : String → Option String) (name : String) : Except MissingVariable String :=
  match lookup name with
  | some value => if (Text.trim value).isEmpty then .error ⟨name⟩ else .ok value
  | none => .error ⟨name⟩

def ofLookup (settings : Settings) (lookup : String → Option String) :
    Except MissingVariable Credentials := do
  let clientId ← require lookup idVariable
  let clientSecret ← require lookup secretVariable
  pure { clientId, clientSecret, serverUrl := settings.serverUrl }

def ofEnvironment (settings : Settings) (env : Environment) : Except MissingVariable Credentials :=
  ofLookup settings env.text?

def describe (credentials : Credentials) : String :=
  "Credentials \x7b client_id: " ++ Text.quoted credentials.clientId ++
    ", client_secret: " ++ Text.quoted "<redacted>" ++
    ", server_url: " ++ Text.quoted credentials.serverUrl ++ " \x7d"

end Credentials

end ManifestNotice
