import ManifestNotice.Http.Fault
import ManifestNotice.Text.Base64
import ManifestNotice.Url.Parse

/-!
# HTTP messages

Requests, and the replies that a server gives to them. A reply also says how
its transfer goes: how long it takes and whether it is broken off.
-/

namespace ManifestNotice.Http

inductive Method where
  | get
  | post
  deriving BEq, DecidableEq, Repr

def Method.name : Method → String
  | .get => "GET"
  | .post => "POST"

/-- Names of headers in lower case, with values. -/
abbrev Headers := List (String × Bytes)

namespace Headers

def find? (headers : Headers) (name : String) : Option Bytes :=
  (headers.filter (·.1 == name)).head?.map (·.2)

def without (headers : Headers) (name : String) : Headers := headers.filter (·.1 != name)

def set (headers : Headers) (name : String) (value : Bytes) : Headers :=
  headers.without name ++ [(name, value)]

end Headers

structure Request where
  method : Method
  url : Url
  headers : Headers
  body : Bytes := []
  deriving BEq, DecidableEq, Repr

structure Reply where
  status : Nat
  headers : Headers := []
  body : Bytes := []
  /-- Seconds until the reply arrives. -/
  delay : Nat := 0
  /-- The connection ends before the announced end of the body. -/
  cutShort : Bool := false
  /-- The connection ends without a reply. -/
  closed : Bool := false
  deriving BEq, DecidableEq, Repr

namespace Reply

def isSuccess (reply : Reply) : Bool := 200 ≤ reply.status && reply.status < 300

/-- Replies with these codes have no body. -/
def hasBody (reply : Reply) : Bool := reply.status != 204 && reply.status != 304

/-- The body as a text, if it arrives as a whole. -/
def text? (reply : Reply) : Option String :=
  if !reply.hasBody then some ""
  else if reply.cutShort then none
  else some (Utf8.decodeLossy reply.body)

end Reply

-- ---------------------------------------------------------------------------
-- Headers
-- ---------------------------------------------------------------------------

/-- Whether a header can have such a value: no controls but the tab. -/
def isHeaderValue (value : Bytes) : Bool := value.all fun b => 0x20 ≤ b && b != 0x7F || b == 0x09

def authorization : String := "authorization"

def basic (user password : Bytes) : Bytes :=
  Utf8.ofString "Basic " ++ Utf8.encode (Text.Base64.encode (user ++ 0x3A :: password))

def bearer (token : String) : Bytes := Utf8.ofString "Bearer " ++ Utf8.ofString token

-- ---------------------------------------------------------------------------
-- Addresses
-- ---------------------------------------------------------------------------

def userOf? (url : Url) : Option (String × Option String) := do
  let name ← Utf8.decode? (Url.percentDecode url.username)
  let password := if url.password.isEmpty then none else Utf8.decode? (Url.percentDecode url.password)
  if name.isEmpty && password.isNone then none else some (name, password)

/-- An address that can be asked, and the header for the names before its
host. -/
structure Target where
  url : Url
  user : Headers := []
  deriving BEq, DecidableEq, Repr

def hasHost (url : Url) : Bool :=
  match url.host with
  | some (.name []) | none => false
  | some _ => true

namespace Target

/-- Names before the host go into a header and not into the address. -/
def ofUrl (url : Url) : Target :=
  match userOf? url with
  | some (name, password) =>
    ⟨url.withoutUser,
      [(authorization, basic (Utf8.ofString name) (Utf8.ofString (password.getD "")))]⟩
  | none => ⟨url, []⟩

def ofText (address : List Char) : Except Fault Target :=
  match Url.parse? address with
  | none => .error (.building none)
  | some url => if hasHost url then .ok (ofUrl url) else .error (.building (some url.toString))

def lengthLimit : Nat := 65534

/-- Characters that a name may hold but that cannot be asked for. -/
def isAwkward (c : Char) : Bool := ['"', Char.ofNat 0x60, '\x7b', '\x7d'].contains c

def isAskable (url : Url) : Bool :=
  url.isWeb && !(url.host.any fun host => host.text.any isAwkward) &&
    Utf8.size url.text ≤ lengthLimit

end Target

end ManifestNotice.Http
