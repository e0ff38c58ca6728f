import ManifestNotice.Json.Record
import ManifestNotice.Text.Blank

/-!
# Answers of the chat server

A request for a token is granted with a JSON record. A refusal may carry a
record that explains it; any other text explains itself.
-/

namespace ManifestNotice.Chat

def putting {σ α : Type} (read : Json.Reader α) (put : σ → α → σ) (state : σ) : Json.Reader σ :=
  fun text => (read text).map fun (value, rest) => (put state value, rest)

-- ---------------------------------------------------------------------------
-- Grants
-- ---------------------------------------------------------------------------

/-- A token, and for how many seconds it is good. -/
structure Grant where
  token : String
  lifetime : Option Nat
  deriving BEq, DecidableEq, Repr

namespace Grant

structure Draft where
  token : Option (List Char) := none
  lifetime : Option (Option Nat) := none
  deriving BEq, DecidableEq, Repr

def record : Json.Record Draft where
  title := "struct TokenResponse"
  fields :=
    [{ name := "access_token"
       isSet := (·.token.isSome)
       read := putting Json.readText fun draft token => { draft with token := some token } },
     { name := "expires_in"
       isSet := (·.lifetime.isSome)
       read := putting (Json.readOptional Json.readNatural) fun draft lifetime =>
         { draft with lifetime := some lifetime } }]
  required := ["access_token"]
  least := 1
  start := {}

def ofText (text : List Char) : Except Json.Fault Grant :=
  (record.ofText text).map fun draft =>
    ⟨String.ofList (draft.token.getD []), draft.lifetime.join⟩

end Grant

-- ---------------------------------------------------------------------------
-- Refusals
-- ---------------------------------------------------------------------------

namespace Refusal

structure Draft where
  error : Option (Option (List Char)) := none
  description : Option (Option (List Char)) := none
  deriving BEq, DecidableEq, Repr

def record : Json.Record Draft where
  title := "refusal"
  fields :=
    [{ name := "error"
       isSet := (·.error.isSome)
       read := putting (Json.readOptional Json.readText) fun draft error =>
         { draft with error := some error } },
     { name := "error_description"
       isSet := (·.description.isSome)
       read := putting (Json.readOptional Json.readText) fun draft description =>
         { draft with description := some description } }]
  required := []
  least := 2
  start := {}

/-- The error and its description, where the text is a record that has an
error. -/
def ofText? (text : List Char) : Option (List Char × Option (List Char)) :=
  match record.ofText text with
  | .ok draft => draft.error.join.map fun error => (error, draft.description.join)
  | .error _ => none

def explain (body : String) : String :=
  match ofText? body.toList with
  | some (error, some description) =>
    String.ofList error ++ ": " ++ String.ofList description
  | some (error, none) => String.ofList error
  | none => if (Text.trim body).isEmpty then "empty response body" else Text.trim body

end Refusal

end ManifestNotice.Chat
