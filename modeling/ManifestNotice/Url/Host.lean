import ManifestNotice.Url.Domain
import ManifestNotice.Url.Encode

/-!
# Hosts

A host is a name or a number. A name that ends in a number has to be one as a
whole.
-/

namespace ManifestNotice.Url

inductive Host where
  | name (text : List Char)
  | ipv4 (address : Nat)
  | ipv6 (pieces : List Nat)
  deriving BEq, DecidableEq, Repr

namespace Host

def numeral? (radix : Nat) (digits : List Char) : Option Nat :=
  digits.foldlM (fun n c => do
    let d ← Text.hexDigit? c
    if d < radix then some (radix * n + d) else none) 0

-- ---------------------------------------------------------------------------
-- Numbers of four parts
-- ---------------------------------------------------------------------------

/-- The parts between the dots; a dot at the end starts no part. -/
def parts (text : List Char) : List (List Char) :=
  let all := text.splitOn '.'
  if 1 < all.length && all.getLast? == some [] then all.dropLast else all

/-- Parts are decimal, octal behind a zero, hexadecimal behind `0x`. -/
def part? : List Char → Option Nat
  | [] => none
  | '0' :: 'x' :: digits => numeral? 16 digits
  | '0' :: c :: digits => numeral? 8 (c :: digits)
  | digits => numeral? 10 digits

/-- A name that ends in a number has to be one. -/
def endsInNumber (text : List Char) : Bool :=
  match (parts text).getLast? with
  | some last => !last.isEmpty && last.all Char.isDigit || (part? last).isSome
  | none => false

/-- The last part fills the bytes that the others leave. -/
def ipv4? (text : List Char) : Option Nat := do
  let numbers ← (parts text).mapM part?
  let last ← numbers.getLast?
  let before := numbers.dropLast
  if before.length < 4 && before.all (· < 256) && last < Nat.pow 256 (4 - before.length) then
    some (before.foldr (fun n (address : Nat) => n * 0x1000000 + address / 0x100) 0 + last)
  else none

-- ---------------------------------------------------------------------------
-- Numbers of eight pieces
-- ---------------------------------------------------------------------------

def piece? (text : List Char) : Option Nat :=
  if 1 ≤ text.length && text.length ≤ 4 then numeral? 16 text else none

def byte? (text : List Char) : Option Nat :=
  match text with
  | '0' :: _ :: _ | [] => none
  | digits => (numeral? 10 digits).filter (· < 256)

def dotted? (text : List Char) : Option (List Nat) :=
  match (text.splitOn '.').mapM byte? with
  | some [a, b, c, d] => some [256 * a + b, 256 * c + d]
  | _ => none

/-- Pieces between colons; the last one may be written with dots if it is at
the end of the number. -/
def pieces? (atEnd : Bool) (text : List Char) : Option (List Nat) :=
  if text.isEmpty then some []
  else do
    let groups := text.splitOn ':'
    let last ← groups.getLast?
    let before ← groups.dropLast.mapM piece?
    let tail ← if atEnd && last.contains '.' then dotted? last else (piece? last).map ([·])
    some (before ++ tail)

def splitGap : List Char → Option (List Char × List Char)
  | ':' :: ':' :: rest => some ([], rest)
  | c :: rest => (splitGap rest).map fun (left, right) => (c :: left, right)
  | [] => none

/-- A double colon stands for one zero or more. -/
def ipv6? (text : List Char) : Option (List Nat) :=
  match splitGap text with
  | some (left, right) => do
    let left ← pieces? false left
    let right ← pieces? true right
    let given := left.length + right.length
    if given < 8 then some (left ++ List.replicate (8 - given) 0 ++ right) else none
  | none => do
    let pieces ← pieces? true text
    if pieces.length == 8 then some pieces else none

def zeroRun (pieces : List Nat) : Nat × Nat :=
  (List.range pieces.length).foldl (fun best start =>
    let size := ((pieces.drop start).takeWhile (· == 0)).length
    if best.2 < size then (start, size) else best) (0, 0)

def joined (pieces : List Nat) : List Char := [':'].intercalate (pieces.map Text.hex)

def ipv6Text (pieces : List Nat) : List Char :=
  let (start, size) := zeroRun pieces
  if size < 2 then joined pieces
  else joined (pieces.take start) ++ [':', ':'] ++ joined (pieces.drop (start + size))

-- ---------------------------------------------------------------------------
-- Names
-- ---------------------------------------------------------------------------

def marks : List Char := ['#', '/', ':', '<', '>', '?', '@', '[', '\\', ']', '^', '|']

def isForbiddenInName (c : Char) : Bool :=
  c.toNat ≤ 0x20 || marks.contains c || c == '%' || c == '\x7f'

def ofName? (text : List Char) : Option Host := do
  let name ← Domain.ascii? (Utf8.decodeLossy (percentDecode text)).toList
  if name.isEmpty || name.any isForbiddenInName then none
  else if endsInNumber name then (ipv4? name).map .ipv4
  else some (.name name)

/-- Controls are passed on, except for those that end a text or a line. -/
def isForbidden (c : Char) : Bool :=
  marks.contains c || [' ', '\x00', '\t', '\n', '\r'].contains c

def ofForeignName? (text : List Char) : Option Host :=
  if text.any isForbidden then none else some (.name (percentEncode EncodeSet.controls text))

def parse? (special : Bool) (text : List Char) : Option Host :=
  match text with
  | '[' :: inner =>
    if inner.getLast? == some ']' then (ipv6? inner.dropLast).map .ipv6 else none
  | _ => if special then ofName? text else ofForeignName? text

-- ---------------------------------------------------------------------------
-- Texts
-- ---------------------------------------------------------------------------

def ipv4Text (address : Nat) : List Char :=
  ['.'].intercalate <|
    [address / 0x1000000, address / 0x10000 % 256, address / 0x100 % 256, address % 256].map
      (Nat.toDigits 10 ·)

def text : Host → List Char
  | .name text => text
  | .ipv4 address => ipv4Text address
  | .ipv6 pieces => '[' :: ipv6Text pieces ++ [']']

end Host

end ManifestNotice.Url
