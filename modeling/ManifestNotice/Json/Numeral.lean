import ManifestNotice.Decimal.Shortest
import ManifestNotice.Json.Fault

/-!
# Numerals

A numeral is digits with an optional sign, fraction and exponent. What it
stands for is a whole number of 64 bits, or else a floating point number that
is near to it.
-/

namespace ManifestNotice.Json

structure Numeral where
  negative : Bool := false
  whole : List Char
  fraction : Option (List Char) := none
  /-- The sign and the digits of the exponent. -/
  exponent : Option (Bool × List Char) := none
  deriving BEq, DecidableEq, Repr

inductive Number where
  | natural (n : Nat)
  /-- The number below zero of this size. -/
  | negative (n : Nat)
  | floating (value : Decimal.Binary64)
  deriving BEq, DecidableEq, Repr

def Number.describe : Number → String
  | .natural n => "integer `" ++ toString n ++ "`"
  | .negative n => "integer `-" ++ toString n ++ "`"
  | .floating (.finite sign mantissa exponent) =>
    "floating point `" ++ Decimal.compactText sign mantissa exponent ++ "`"
  | .floating value => "floating point `" ++ Decimal.plainText value ++ "`"

namespace Numeral

-- ---------------------------------------------------------------------------
-- Reading
-- ---------------------------------------------------------------------------

/-- Digits, one at least. Where there is none, the end of the text has a cause
of its own. -/
def readDigits (atEnd : Cause) : Reader (List Char)
  | [] => .error (.before atEnd [])
  | c :: rest =>
    if c.isDigit then .ok (c :: rest.takeWhile Char.isDigit, rest.dropWhile Char.isDigit)
    else .error (.within .badNumber (c :: rest))

/-- No digit may follow a zero in front. -/
def readWhole (atEnd : Cause) : Reader (List Char)
  | '0' :: c :: rest =>
    if c.isDigit then .error (.within .badNumber (c :: rest)) else .ok (['0'], c :: rest)
  | text => readDigits atEnd text

def readFraction (atEnd : Cause) : Reader (Option (List Char))
  | '.' :: rest => (readDigits atEnd rest).map fun (digits, rest) => (some digits, rest)
  | text => .ok (none, text)

def readSign : List Char → Bool × List Char
  | '-' :: rest => (true, rest)
  | '+' :: rest => (false, rest)
  | text => (false, text)

def readExponent (atEnd : Cause) : Reader (Option (Bool × List Char))
  | c :: rest =>
    if c == 'e' || c == 'E' then
      let (negative, rest) := readSign rest
      (readDigits atEnd rest).map fun (digits, rest) => (some (negative, digits), rest)
    else .ok (none, c :: rest)
  | [] => .ok (none, [])

def read (atEnd : Cause) (negative : Bool) : Reader Numeral := fun text => do
  let (whole, rest) ← readWhole atEnd text
  let (fraction, rest) ← readFraction atEnd rest
  let (exponent, rest) ← readExponent atEnd rest
  pure ({ negative, whole, fraction, exponent }, rest)

-- ---------------------------------------------------------------------------
-- Value
-- ---------------------------------------------------------------------------

def digitValue (c : Char) : Nat := c.toNat - 48

def wordLimit : Nat := 0x10000000000000000

/-- Appends digits to a number while it fits into 64 bits, and gives those that
do not. -/
def accumulate : Nat → List Char → Nat × List Char
  | n, [] => (n, [])
  | n, c :: rest =>
    let next := 10 * n + digitValue c
    if next < wordLimit then accumulate next rest else (n, c :: rest)

def powerLimit : Nat := 308

def powerOfTen (n : Nat) : Nat × Int :=
  (Decimal.Binary64.nearest? (Nat.pow 10 n) 1).getD (0, 0)

/-- The size scaled by a power of ten, in steps that a floating point number
can hold; none if it grows too large. -/
def scaled? : Nat → Nat × Int → Int → Option (Nat × Int)
  | 0, _, _ => some (0, Decimal.Binary64.leastExponent)
  | fuel + 1, size, exponent =>
    if exponent.natAbs ≤ powerLimit then
      if 0 ≤ exponent then Decimal.Binary64.mul? size (powerOfTen exponent.natAbs)
      else Decimal.Binary64.div? size (powerOfTen exponent.natAbs)
    else if size.1 == 0 then some size
    else if 0 ≤ exponent then none
    else do
      let size ← Decimal.Binary64.div? size (powerOfTen powerLimit)
      scaled? fuel size (exponent + powerLimit)

def exponentLimit : Nat := 0x80000000

/-- The digits of an exponent behind the one that takes it past the limit. -/
def pastLimit? : Nat → List Char → Option (List Char)
  | _, [] => none
  | n, c :: rest =>
    let n := 10 * n + digitValue c
    if n < exponentLimit then pastLimit? n rest else some rest

def natural (digits : List Char) : Nat := digits.foldl (fun n c => 10 * n + digitValue c) 0

def floating? (negative : Bool) (significand : Nat) (exponent : Int) : Option Number := do
  let size ← Decimal.Binary64.nearest? significand 1
  let (mantissa, exponent) ← scaled? 4 size exponent
  some (.floating (.finite negative mantissa exponent))

/-- What the numeral stands for, if it is not too large. Digits that do not fit
into 64 bits only count as places. -/
def value? (numeral : Numeral) : Option Number :=
  let (significand, unused) := accumulate 0 numeral.whole
  if unused.isEmpty && numeral.fraction.isNone && numeral.exponent.isNone then
    if !numeral.negative then some (.natural significand)
    else if 1 ≤ significand && significand ≤ 0x8000000000000000 then some (.negative significand)
    else floating? true significand 0
  else
    let places := numeral.fraction.getD []
    let (significand, unread) := accumulate significand places
    let shift : Int := (unused.length : Int) - (places.length - unread.length : Nat)
    match numeral.exponent with
    | none => floating? numeral.negative significand shift
    | some (negative, digits) =>
      if (pastLimit? 0 digits).isSome then
        if significand != 0 && !negative then none
        else some (.floating (.finite numeral.negative 0 Decimal.Binary64.leastExponent))
      else
        let size : Int := natural digits
        floating? numeral.negative significand (shift + if negative then -size else size)

/-- Digits that are not looked at once the exponent is too large. -/
def unread (numeral : Numeral) : Nat :=
  match numeral.exponent with
  | some (_, digits) => ((pastLimit? 0 digits).getD []).length
  | none => 0

def readNumber (negative : Bool) : Reader Number := fun text => do
  let (numeral, rest) ← read .valueEnds negative text
  match numeral.value? with
  | some number => pure (number, rest)
  | none => throw ⟨.numberTooLarge, Utf8.size rest + numeral.unread⟩

end Numeral

end ManifestNotice.Json
