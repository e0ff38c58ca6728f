import ManifestNotice.Http.Redirect

/-!
# Exchanges

A request is sent, and its redirects are followed. The servers answer from a
script; what arrives there is recorded. The clock moves while a reply is on its
way, and a reply that is not there within the time limit comes too late.
-/

namespace ManifestNotice.Http

inductive Route where
  | answered
  /-- A tunnel is asked for, and does not come about. -/
  | tunnelled
  | refused
  deriving BEq, DecidableEq, Repr

abbrev Network := Url → Route

inductive Receipt where
  | tunnel (authority : List Char)
  /-- A request, how many redirects led to it, and what it is answered. -/
  | request (request : Request) (hop : Nat) (reply : Reply)
  deriving BEq, DecidableEq, Repr

structure Backend where
  script : List Reply
  clock : Nat
  receipts : List Receipt := []
  deriving BEq, DecidableEq, Repr

namespace Network

def cutOff : Network := fun _ => .refused

/-- Every server answers, secure ones through a tunnel; one address is known to
refuse. -/
def scripted : Network := fun url =>
  if url.isSecure then .tunnelled
  else if url.host == some (.ipv4 0x7F000001) && url.port == some 1 then .refused
  else .answered

end Network

def timeLimit : Nat := 30

def redirectLimit : Nat := 10

def unscripted : Reply := { status := 500, body := Utf8.ofString "unscripted request" }

def authorityOf (url : Url) : List Char :=
  (url.host.elim [] Url.Host.text) ++ ':' :: Nat.toDigits 10 (url.effectivePort?.getD 0)

namespace Backend

def nextReply (backend : Backend) : Reply := backend.script.head?.getD unscripted

/-- Takes a request in and lets the time of its reply pass. -/
def receive (backend : Backend) (hop : Nat) (request : Request) : Backend where
  script := backend.script.tail
  clock := backend.clock + backend.nextReply.delay
  receipts := backend.receipts ++ [.request request hop backend.nextReply]

def refuseTunnel (backend : Backend) (url : Url) : Backend :=
  { backend with receipts := backend.receipts ++ [.tunnel (authorityOf url)] }

end Backend

structure Start where
  url : Url
  deadline : Nat
  deriving BEq, DecidableEq, Repr

namespace Start

def lost (start : Start) : Fault := .sending start.url.toString

end Start

/-- Sends a request that `hop` redirects led to, and follows `left` more. -/
def follow (network : Network) (start : Start) :
    Nat → Nat → Request → Backend → Except Fault Reply × Backend
  | left, hop, request, backend =>
    match network request.url with
    | .refused => (.error start.lost, backend)
    | .tunnelled => (.error start.lost, backend.refuseTunnel request.url)
    | .answered =>
      let reply := backend.nextReply
      let backend := backend.receive hop request
      if start.deadline ≤ backend.clock || reply.closed then (.error start.lost, backend)
      else
        match request.redirected? reply with
        | none => (.ok reply, backend)
        | some next =>
          match left with
          | 0 => (.error (.redirecting request.url.toString), backend)
          | left + 1 =>
            if next.url.isWeb then follow network start left (hop + 1) next backend
            else (.error (.building (some next.url.toString)), backend)

def exchange (network : Network) (request : Request) (backend : Backend) :
    Except Fault Reply × Backend :=
  if Target.isAskable request.url then
    follow network ⟨request.url, backend.clock + timeLimit⟩ redirectLimit 0 request backend
  else (.error (.building (some request.url.toString)), backend)

end ManifestNotice.Http
