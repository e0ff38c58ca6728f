import ManifestNotice.Url.Host

/-!
# Addresses

An address in parts, and its one written form.
-/

namespace ManifestNotice

namespace Url

/-- What follows the authority. Without an authority it may be any text. -/
inductive Path where
  | segments (list : List (List Char))
  | rootless (text : List Char)
  deriving BEq, DecidableEq, Repr

end Url

structure Url where
  scheme : List Char
  username : List Char := []
  password : List Char := []
  host : Option Url.Host := none
  port : Option Nat := none
  path : Url.Path := .segments []
  query : Option (List Char) := none
  fragment : Option (List Char) := none
  deriving BEq, DecidableEq, Repr

namespace Url

def usualPort? (scheme : List Char) : Option Nat :=
  match String.ofList scheme with
  | "http" | "ws" => some 80
  | "https" | "wss" => some 443
  | "ftp" => some 21
  | _ => none

def fileScheme : List Char := ['f', 'i', 'l', 'e']

/-- Schemes whose addresses have an authority in any case, and in which a
backslash separates as a slash does. -/
def isSpecial (scheme : List Char) : Bool := (usualPort? scheme).isSome || scheme == fileScheme

def isWeb (url : Url) : Bool :=
  url.scheme == ['h', 't', 't', 'p'] || url.scheme == ['h', 't', 't', 'p', 's']

def isSecure (url : Url) : Bool := url.scheme == ['h', 't', 't', 'p', 's']

def effectivePort? (url : Url) : Option Nat := url.port.or (usualPort? url.scheme)

def withoutUser (url : Url) : Url := { url with username := [], password := [] }

def withoutFragment (url : Url) : Url := { url with fragment := none }

-- ---------------------------------------------------------------------------
-- The written form
-- ---------------------------------------------------------------------------

def userText (url : Url) : List Char :=
  if url.username.isEmpty && url.password.isEmpty then []
  else
    url.username ++ (if url.password.isEmpty then [] else ':' :: url.password) ++ ['@']

def portText (url : Url) : List Char :=
  match url.port with
  | some n => ':' :: Nat.toDigits 10 n
  | none => []

/-- Without an authority a path must not look as if it began with one. -/
def pathText (url : Url) : List Char :=
  match url.path with
  | .rootless text => text
  | .segments list =>
    let text := list.flatMap ('/' :: ·)
    match url.host, list with
    | none, [] :: _ :: _ => '/' :: '.' :: text
    | _, _ => text

def marked (mark : Char) : Option (List Char) → List Char
  | some text => mark :: text
  | none => []

def text (url : Url) : List Char :=
  let authority := match url.host with
    | some host => '/' :: '/' :: url.userText ++ host.text ++ url.portText
    | none => []
  url.scheme ++ ':' :: authority ++ url.pathText ++ marked '?' url.query ++ marked '#' url.fragment

def toString (url : Url) : String := String.ofList url.text

end Url

end ManifestNotice
