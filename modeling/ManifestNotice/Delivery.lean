import ManifestNotice.Fault
import ManifestNotice.Log
import ManifestNotice.Notice
import ManifestNotice.Settings

/-!
# Delivery

A notice is composed, the chat backend is asked for a session, and the notice
is posted. The first fault ends it.
-/

namespace ManifestNotice

/-- A computation on a world that may end in a fault; what it did to the world
stays done. -/
abbrev Step (World : Type) := ExceptT Fault (StateM World)

structure Sources (World : Type) where
  latestCommit : Step World String
  note (event : Log.Event) : Step World Unit

structure Services (World : Type) extends Sources World where
  authenticate : Step World Unit
  post (channel text : String) : Step World Unit

namespace Delivery

variable {World : Type}

/-- Only the developers' notice looks at the commits. -/
def compose (sources : Sources World) (variant : Variant) (settings : Settings) :
    Step World String :=
  match variant with
  | .developers => do
    sources.note .readingCommit
    let commit ← sources.latestCommit
    pure (Notice.developers settings.folder settings.branch commit)
  | .plain => pure (Notice.plain settings.folder)

def run (services : Services World) (variant : Variant) (settings : Settings) : Step World Unit := do
  let body ← compose services.toSources variant settings
  services.note (.authenticating settings.serverUrl)
  services.authenticate
  services.note (.sendingNotice settings.channelId)
  services.post settings.channelId body
  services.note .noticeSent

end Delivery

end ManifestNotice
