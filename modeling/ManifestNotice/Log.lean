import ManifestNotice.Text.Quoted

/-!
# Log events

What the program reports about its own work. An event is what happened; its
level, the part of the program it comes from and its line are read off it.
-/

namespace ManifestNotice.Log

inductive Level where
  | error
  | warn
  | info
  | debug
  | trace
  deriving BEq, DecidableEq, Repr

namespace Level

def rank : Level → Nat
  | .error => 1
  | .warn => 2
  | .info => 3
  | .debug => 4
  | .trace => 5

def name : Level → String
  | .error => "ERROR"
  | .warn => "WARN"
  | .info => "INFO"
  | .debug => "DEBUG"
  | .trace => "TRACE"

def all : List Level := [.error, .warn, .info, .debug, .trace]

end Level

inductive Event where
  | readingCommit
  | authenticating (server : String)
  | requestingToken (server : String)
  | sendingNotice (channel : String)
  | postingMessage (channel : String) (bytes : Nat)
  | noticeSent
  deriving BEq, DecidableEq, Repr

namespace Event

def level : Event → Level
  | .requestingToken _ | .postingMessage .. => .debug
  | _ => .info

def target : Event → String
  | .requestingToken _ | .postingMessage .. => "manifest_notify::space"
  | _ => "manifest_notify::notifier"

def message : Event → String
  | .readingCommit => "reading latest commit message"
  | .authenticating _ => "authenticating service account"
  | .requestingToken _ => "requesting service account token"
  | .sendingNotice _ => "sending manifest notification"
  | .postingMessage .. => "posting chat message"
  | .noticeSent => "notification sent"

def fields : Event → List (String × String)
  | .authenticating server | .requestingToken server => [("server", server)]
  | .sendingNotice channel => [("channel", channel)]
  | .postingMessage channel bytes => [("channel", Text.quoted channel), ("bytes", toString bytes)]
  | .readingCommit | .noticeSent => []

def line (event : Event) : String :=
  event.fields.foldl (fun line field => line ++ " " ++ field.1 ++ "=" ++ field.2)
    (event.level.name ++ " " ++ event.message)

end Event

end ManifestNotice.Log
