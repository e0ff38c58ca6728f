import ManifestNotice.Text.Blank
import ManifestNotice.Url

/-!
# Reading addresses

An address is cut at its marks from the left: the scheme, the authority up to
the path, the path up to the query, the query up to the fragment. What an
address cannot hold is encoded on the way.
-/

namespace ManifestNotice.Url

-- ---------------------------------------------------------------------------
-- Cutting
-- ---------------------------------------------------------------------------

def isEdge (c : Char) : Bool := c.toNat ≤ 0x20

def isBreak (c : Char) : Bool := c == '\t' || c == '\n' || c == '\r'

/-- The text without controls and spaces around it and without line breaks and
tabs inside. -/
def cleaned (text : List Char) : List Char :=
  (Text.dropEnd isEdge (text.dropWhile isEdge)).filter (!isBreak ·)

def cut (mark : Char) (text : List Char) : List Char × Option (List Char) :=
  (text.takeWhile (· != mark), (text.dropWhile (· != mark)).tail?)

def isSchemeChar (c : Char) : Bool := c.isAlphanum || c == '+' || c == '-' || c == '.'

def scheme? (text : List Char) : Option (List Char × List Char) :=
  match cut ':' text with
  | (c :: name, some rest) =>
    if c.isAlpha && name.all isSchemeChar then some ((c :: name).map Char.toLower, rest) else none
  | _ => none

def separates (special : Bool) (c : Char) : Bool := c == '/' || special && c == '\\'

def endsAuthority (special : Bool) (c : Char) : Bool :=
  separates special c || c == '?' || c == '#'

-- ---------------------------------------------------------------------------
-- The authority
-- ---------------------------------------------------------------------------

/-- The part before the last at sign, and the part behind it. -/
def splitUser (authority : List Char) : Option (List Char) × List Char :=
  let behind := (authority.reverse.takeWhile (· != '@')).reverse
  if behind.length == authority.length then (none, authority)
  else (some (authority.take (authority.length - behind.length - 1)), behind)

/-- The part before the first colon outside brackets, and the part behind it. -/
def splitPort : Bool → List Char → List Char × Option (List Char)
  | _, [] => ([], none)
  | inside, c :: rest =>
    if c == ':' && !inside then ([], some rest)
    else
      let (host, port) := splitPort (if c == '[' then true else if c == ']' then false else inside) rest
      (c :: host, port)

def cutPort (text : List Char) : List Char × List Char :=
  (text.takeWhile (· != '\\'), text.dropWhile (· != '\\'))

/-- Digits up to 65535, or nothing. The port that goes without saying is left
out. -/
def port? (scheme : List Char) (text : List Char) : Option (Option Nat) :=
  if !text.all Char.isDigit then none
  else if text.isEmpty then some none
  else do
    let n ← Host.numeral? 10 text
    if n < 65536 then some (if usualPort? scheme == some n then none else some n) else none

def userParts (user : List Char) : List Char × List Char :=
  let (name, password) := cut ':' user
  (percentEncode EncodeSet.userinfo name, percentEncode EncodeSet.userinfo (password.getD []))

/-- Reads the authority into an address that has its scheme only. What is left
of it behind a backslash starts the path. Without a host there are no names
and no port; an at sign with nothing around it is passed over at the end of an
address only. -/
def authority? (url : Url) (authority : List Char) (atEnd : Bool) : Option (Url × List Char) := do
  let special := isSpecial url.scheme
  let (user, rest) := splitUser authority
  let (hostText, portText) := splitPort false rest
  let host ← if hostText.isEmpty && special then none else Host.parse? special hostText
  let (username, password) := userParts (user.getD [])
  if hostText.isEmpty then
    if portText.isSome || !username.isEmpty || !password.isEmpty then none
    if user == some [] && !atEnd then none
  let (digits, left) := cutPort (portText.getD [])
  let port ← port? url.scheme digits
  some ({ url with username, password, host := some host, port }, left)

-- ---------------------------------------------------------------------------
-- The path
-- ---------------------------------------------------------------------------

/-- Dots may be encoded. -/
def dots : List Char → Option Nat
  | [] => some 0
  | '.' :: rest => (dots rest).map (· + 1)
  | '%' :: '2' :: c :: rest => if c == 'e' || c == 'E' then (dots rest).map (· + 1) else none
  | _ => none

def isDrive (segment : List Char) : Bool :=
  match segment with
  | [letter, mark] => letter.isAlpha && (mark == ':' || mark == '|')
  | _ => false

def startsWithDrive (segment : List Char) : Bool :=
  isDrive (segment.take 2) && (segment.drop 2).head?.all (· == '\\')

/-- One segment up; a drive stays. -/
def shortened (done : List (List Char)) : List (List Char) :=
  if done.getLast?.any startsWithDrive then done else done.dropLast

/-- A segment as it stands in an address. The first one of a file's path may
name a drive. -/
def segment (file : Bool) (done : List (List Char)) (text : List Char) : List Char :=
  if file && done.isEmpty && isDrive text then text.take 1 ++ [':']
  else percentEncode EncodeSet.path text

/-- Follows the segments: one dot stays, two go up. Dots at the end leave an
empty segment. -/
def steps (file : Bool) : List (List Char) → List (List Char) → List (List Char)
  | done, [] => done
  | done, [last] =>
    match dots last with
    | some 1 => done ++ [[]]
    | some 2 => shortened done ++ [[]]
    | _ => done ++ [segment file done last]
  | done, text :: rest =>
    match dots text with
    | some 1 => steps file done rest
    | some 2 => steps file (shortened done) rest
    | _ => steps file (done ++ [segment file done text]) rest

def withoutSeparator (special : Bool) : List Char → List Char
  | [] => []
  | c :: rest => if separates special c then rest else c :: rest

/-- The segments of a path. A special address has one segment at least. -/
def segments (special : Bool) (path : List Char) : List (List Char) :=
  if path.isEmpty && !special then []
  else steps false [] ((withoutSeparator special path).splitOnP (separates special))

def fileSegments (steps : List (List Char)) : List (List Char) :=
  match steps.dropWhile (·.isEmpty) with
  | [] => [[]]
  | segments => segments

-- ---------------------------------------------------------------------------
-- The whole
-- ---------------------------------------------------------------------------

def finished (url : Url) (read : List Char → Path) (text : List Char) : Url :=
  let (text, fragment) := cut '#' text
  let (text, query) := cut '?' text
  let querySet := if isSpecial url.scheme then EncodeSet.specialQuery else EncodeSet.query
  { url with
    path := read text
    query := query.map (percentEncode querySet)
    fragment := fragment.map (percentEncode EncodeSet.fragment) }

def withAuthority? (url : Url) (text : List Char) : Option Url := do
  let special := isSpecial url.scheme
  let rest := text.dropWhile (!endsAuthority special ·)
  let (url, left) ← url.authority? (text.takeWhile (!endsAuthority special ·)) rest.isEmpty
  some (url.finished (fun path => .segments (segments special path)) (left ++ rest))

/-- A file's host may be missing, and the near one goes without saying. -/
def fileHost? (text : List Char) : Option Host :=
  if text.isEmpty then some (.name [])
  else
    (Host.parse? true text).map fun host =>
      if host == .name ['l', 'o', 'c', 'a', 'l', 'h', 'o', 's', 't'] then .name [] else host

/-- Reads the path of a file. A path that starts with a drive is on no host. -/
def withFile (url : Url) (host : Host) (text : List Char) : Url :=
  let path := (cut '?' (cut '#' text).1).1
  let steps := steps true [] (path.splitOnP (separates true))
  let host := if steps.head?.any isDrive then .name [] else host
  { url with host := some host }.finished (fun _ => .segments (fileSegments steps)) text

/-- Behind a host, and where there is just one separator, the path is what
follows a separator. -/
def file? (url : Url) (text : List Char) : Option Url :=
  match text with
  | a :: b :: rest =>
    if separates true a && separates true b then
      let hostText := rest.takeWhile (!endsAuthority true ·)
      let path := rest.dropWhile (!endsAuthority true ·)
      if isDrive hostText then some (url.withFile (.name []) rest)
      else do
        let host ← fileHost? hostText
        some (url.withFile host (if host == .name [] then path else withoutSeparator true path))
    else some (url.withFile (.name []) (withoutSeparator true text))
  | _ => some (url.withFile (.name []) (withoutSeparator true text))

def parse? (text : List Char) : Option Url := do
  let (scheme, rest) ← scheme? (cleaned text)
  let url : Url := { scheme }
  if scheme == fileScheme then url.file? rest
  else if isSpecial scheme then url.withAuthority? (rest.dropWhile (separates true))
  else
    match rest with
    | '/' :: '/' :: rest => url.withAuthority? rest
    | '/' :: _ => some (url.finished (fun path => .segments (segments false path)) rest)
    | _ => some (url.finished (fun path => .rootless (percentEncode EncodeSet.controls path)) rest)

end ManifestNotice.Url
