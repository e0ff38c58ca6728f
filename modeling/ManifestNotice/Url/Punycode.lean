/-!
# Punycode

Labels with characters outside ASCII, written in letters and digits: first the
characters that can stay, then the others in rising order as distances from
one insertion to the next.
-/

namespace ManifestNotice.Url.Punycode

def digit (n : Nat) : Char := if n < 26 then Char.ofNat (97 + n) else Char.ofNat (22 + n)

def digitValue? (c : Char) : Option Nat :=
  if 'a' ≤ c && c ≤ 'z' then some (c.toNat - 97)
  else if 'A' ≤ c && c ≤ 'Z' then some (c.toNat - 65)
  else if '0' ≤ c && c ≤ '9' then some (c.toNat - 22)
  else none

def threshold (position bias : Nat) : Nat := min 26 (max 1 (position - bias))

def cutDown : Nat → Nat → Nat → Nat × Nat
  | 0, delta, k => (delta, k)
  | fuel + 1, delta, k => if delta > 455 then cutDown fuel (delta / 35) (k + 36) else (delta, k)

def adapt (delta points : Nat) (first : Bool) : Nat :=
  let delta := if first then delta / 700 else delta / 2
  let (delta, k) := cutDown 64 (delta + delta / points) 0
  k + 36 * delta / (delta + 38)

/-- A distance in digits, the least significant first. -/
def number : Nat → Nat → Nat → Nat → List Char
  | 0, _, _, q => [digit q]
  | fuel + 1, position, bias, q =>
    let t := threshold position bias
    if q < t then [digit q]
    else digit (t + (q - t) % (36 - t)) :: number fuel (position + 36) bias ((q - t) / (36 - t))

structure Writer where
  output : List Char
  delta : Nat
  bias : Nat
  handled : Nat

/-- Passes one character while those with the code `code` are inserted. -/
def Writer.pass (basic code : Nat) (w : Writer) (c : Char) : Writer :=
  if c.toNat < code then { w with delta := w.delta + 1 }
  else if c.toNat == code then
    { output := w.output ++ number 64 36 w.bias w.delta
      delta := 0
      bias := adapt w.delta (w.handled + 1) (w.handled == basic)
      handled := w.handled + 1 }
  else w

def Writer.insert (input : List Char) (basic : Nat) : Nat → List Nat → Writer → Writer
  | _, [], w => w
  | from_, code :: codes, w =>
    let w := { w with delta := w.delta + (code - from_) * (w.handled + 1) }
    let w := input.foldl (Writer.pass basic code) w
    Writer.insert input basic (code + 1) codes { w with delta := w.delta + 1 }

def insertSorted (n : Nat) : List Nat → List Nat
  | [] => [n]
  | m :: rest => if n < m then n :: m :: rest else if n == m then m :: rest else m :: insertSorted n rest

def isBasic (c : Char) : Bool := c.toNat < 0x80

def encode (label : List Char) : List Char :=
  let basic := label.filter isBasic
  let codes := (label.filter (!isBasic ·)).foldl (fun codes c => insertSorted c.toNat codes) []
  let start := if basic.isEmpty then [] else basic ++ ['-']
  (Writer.insert label basic.length 0x80 codes
    { output := start, delta := 0, bias := 72, handled := basic.length }).output

def limit : Nat := 0x100000000

def distance? : Nat → Nat → Nat → Nat → List Char → Option (Nat × List Char)
  | _, _, _, _, [] => none
  | position, bias, weight, value, c :: rest => do
    let d ← digitValue? c
    let t := threshold position bias
    let value := value + d * weight
    if limit ≤ value || limit ≤ weight then none
    else if d < t then some (value, rest)
    else distance? (position + 36) bias (weight * (36 - t)) value rest

/-- Inserts what the digits say into the characters that stayed, `basic` in
number. Each round takes a digit at least. -/
def insertions? (basic : Nat) :
    Nat → List Char → Nat → Nat → Nat → List Char → Option (List Char)
  | _, [], _, _, _, output => some output
  | 0, _ :: _, _, _, _, _ => none
  | fuel + 1, text, code, index, bias, output => do
    let (total, rest) ← distance? 36 bias 1 index text
    let points := output.length + 1
    let code := code + total / points
    if !code.isValidChar then none
    else
      let place := total % points
      insertions? basic fuel rest code (place + 1) (adapt (total - index) points (output.length == basic))
        (output.take place ++ Char.ofNat code :: output.drop place)

def splitBasic (text : List Char) : List Char × List Char :=
  let tail := (text.reverse.takeWhile (· != '-')).reverse
  if tail.length == text.length then ([], text)
  else (text.take (text.length - tail.length - 1), tail)

def decode? (text : List Char) : Option (List Char) :=
  let (basic, digits) := splitBasic text
  if basic.all isBasic then insertions? basic.length digits.length digits 0x80 0 72 basic else none

end ManifestNotice.Url.Punycode
