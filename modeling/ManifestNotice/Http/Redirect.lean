import ManifestNotice.Http

/-!
# Redirects

Some replies name another address to be asked. It may be given in part, the
rest coming from the address asked before.
-/

namespace ManifestNotice.Http

structure Reference where
  scheme : Option (List Char)
  authority : Option (List Char)
  path : List Char
  query : Option (List Char)
  deriving BEq, DecidableEq, Repr

namespace Reference

/-- The characters of references besides letters and digits. -/
def marks : List Char := "-._~:/?#[]@!$&'()*+,;=".toList

/-- Percent signs come with two digits. -/
def isWritten : List Char → Bool
  | [] => true
  | '%' :: a :: b :: rest =>
    (Text.hexDigit? a).isSome && (Text.hexDigit? b).isSome && isWritten rest
  | c :: rest => (c.isAlphanum || marks.contains c) && isWritten rest

def isBracket (c : Char) : Bool := c == '[' || c == ']'

/-- The parts of a reference; its fragment is dropped. -/
def ofText? (text : List Char) : Option Reference := do
  let (text, _) := Url.cut '#' text
  let (front, query) := Url.cut '?' text
  let (scheme, rest) := match Url.scheme? front with
    | some (scheme, rest) => (some scheme, rest)
    | none => (none, front)
  let (authority, path) := match rest with
    | '/' :: '/' :: rest => (some (rest.takeWhile (· != '/')), rest.dropWhile (· != '/'))
    | _ => (none, rest)
  let bare := scheme.isNone && authority.isNone && (path.takeWhile (· != '/')).contains ':'
  if !isWritten text || bare || path.any isBracket || query.any (·.any isBracket) then none
  else some { scheme, authority, path, query }

def queryText : Option (List Char) → List Char := Url.marked '?'

/-- The text of the address that the reference stands for, seen from another
address. A scheme must come with an authority. -/
def resolved? (reference : Reference) (base : Url) : Option (List Char) :=
  let { scheme, authority, path, query } := reference
  let colon := base.scheme ++ [':']
  let site := colon ++ '/' :: '/' :: base.userText ++ (base.host.elim [] Url.Host.text) ++ base.portText
  match scheme, authority with
  | some scheme, some authority =>
    some (scheme ++ ':' :: '/' :: '/' :: authority ++ path ++ queryText query)
  | some _, none => none
  | none, some authority => some (colon ++ '/' :: '/' :: authority ++ path ++ queryText query)
  | none, none =>
    match path with
    | [] => some (site ++ base.pathText ++ queryText (query.or base.query))
    | '/' :: _ => some (site ++ path ++ queryText query)
    | _ =>
      let folder := (base.pathText.reverse.dropWhile (· != '/')).reverse
      some (site ++ folder ++ path ++ queryText query)

end Reference

def location? (base : Url) (reply : Reply) : Option Url := do
  let value ← reply.headers.find? "location"
  let text ← Utf8.decode? value
  let reference ← Reference.ofText? text.toList
  Url.parse? (← reference.resolved? base)

/-- Where the request has come from; nothing is told on a less secure way. -/
def referer? (next previous : Url) : Option Bytes :=
  if previous.isSecure && !next.isSecure then none
  else some (Utf8.encode previous.withoutUser.withoutFragment.text)

def sameServer (a b : Url) : Bool := a.host == b.host && a.effectivePort? == b.effectivePort?

namespace Request

def bodyHeaders : List String :=
  ["content-type", "content-length", "content-encoding", "transfer-encoding"]

def emptied (request : Request) : Request :=
  { request with
    method := .get
    headers := request.headers.filter (!bodyHeaders.contains ·.1)
    body := [] }

/-- The request that a reply leads to. Some codes ask for it as it is, others
for one without a body; to another server it goes without authorization. -/
def redirected? (request : Request) (reply : Reply) : Option Request := do
  let next ←
    if reply.status == 301 || reply.status == 302 || reply.status == 303 then some request.emptied
    else if reply.status == 307 || reply.status == 308 then some request
    else none
  let url ← location? request.url reply
  let headers :=
    if sameServer url request.url then next.headers else next.headers.without authorization
  let headers := match referer? url request.url with
    | some referer => headers.set "referer" referer
    | none => headers
  some { next with url, headers }

end Request

end ManifestNotice.Http
