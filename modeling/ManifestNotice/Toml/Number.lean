import ManifestNotice.Toml.Quoted

/-!
# TOML numbers, dates and times
-/

namespace ManifestNotice.Toml

-- ---------------------------------------------------------------------------
-- Digits
-- ---------------------------------------------------------------------------

/-- Further digits, each perhaps after one underscore. -/
def moreDigits (p : Char → Bool) : Text → List Char × Text
  | [] => ([], [])
  | '_' :: c :: rest =>
    if p c then
      let (ds, rest) := moreDigits p rest
      (c :: ds, rest)
    else ([], '_' :: c :: rest)
  | c :: rest =>
    if p c then
      let (ds, rest) := moreDigits p rest
      (c :: ds, rest)
    else ([], c :: rest)

def digits? (p : Char → Bool) : Text → Option (List Char × Text)
  | c :: rest =>
    if p c then
      let (ds, rest) := moreDigits p rest
      some (c :: ds, rest)
    else none
  | [] => none

def sign : Text → Bool × Text
  | '+' :: rest => (false, rest)
  | '-' :: rest => (true, rest)
  | text => (false, text)

def valueOf (base : Nat) (digits : List Char) : Nat :=
  digits.foldl (fun n c => base * n + (Text.hexDigit? c).getD 0) 0

def decimal? (text : Text) : Option (Bool × List Char × Text) :=
  let (negative, text) := sign text
  match text with
  | '0' :: rest => some (negative, ['0'], rest)
  | _ => (digits? Char.isDigit text).map fun (ds, rest) => (negative, ds, rest)

-- ---------------------------------------------------------------------------
-- Integers
-- ---------------------------------------------------------------------------

def inRange (n : Int) : Bool := -0x8000000000000000 ≤ n && n < 0x8000000000000000

def ranged? (n : Int) (rest : Text) : Option (Value × Text) :=
  if inRange n then some (.integer n, rest) else none

def based? (base : Nat) (p : Char → Bool) (text : Text) : Option (Value × Text) := do
  let (ds, rest) ← digits? p text
  ranged? (valueOf base ds) rest

def integer? : Text → Option (Value × Text)
  | '0' :: 'x' :: rest => based? 16 isHexDigit rest
  | '0' :: 'o' :: rest => based? 8 (fun c => '0' ≤ c && c ≤ '7') rest
  | '0' :: 'b' :: rest => based? 2 (fun c => c == '0' || c == '1') rest
  | text => do
    let (negative, ds, rest) ← decimal? text
    let n : Int := valueOf 10 ds
    ranged? (if negative then -n else n) rest

-- ---------------------------------------------------------------------------
-- Floats
-- ---------------------------------------------------------------------------

def fraction? : Text → Option (List Char × Text)
  | '.' :: rest => digits? Char.isDigit rest
  | _ => none

def exponent? : Text → Option (Int × Text)
  | c :: rest =>
    if c == 'e' || c == 'E' then do
      let (negative, rest) := sign rest
      let (ds, rest) ← digits? Char.isDigit rest
      let n : Int := valueOf 10 ds
      some (if negative then -n else n, rest)
    else none
  | [] => none

/-- A number past the greatest float is refused, one past the least is not. -/
def finite? (x : Decimal.Binary64) (rest : Text) : Option (Value × Text) :=
  if x == .infinite false then none else some (.float x, rest)

def float? (text : Text) : Option (Value × Text) := do
  let (negative, whole, rest) ← decimal? text
  match fraction? rest with
  | some (places, rest) =>
    let (exponent, rest) := (exponent? rest).getD (0, rest)
    finite? (.ofDecimal negative (valueOf 10 (whole ++ places)) (exponent - places.length)) rest
  | none => do
    let (exponent, rest) ← exponent? rest
    finite? (.ofDecimal negative (valueOf 10 whole) exponent) rest

def specialFloat? (text : Text) : Option (Value × Text) :=
  match sign text with
  | (negative, 'i' :: 'n' :: 'f' :: rest) => some (.float (.infinite negative), rest)
  | (_, 'n' :: 'a' :: 'n' :: rest) => some (.float .nan, rest)
  | _ => none

-- ---------------------------------------------------------------------------
-- Dates and times
-- ---------------------------------------------------------------------------

def field? (count low high : Nat) (text : Text) : Option (Nat × Text) :=
  let ds := text.take count
  let n := valueOf 10 ds
  if ds.length == count && ds.all Char.isDigit && low ≤ n && n ≤ high then
    some (n, text.drop count)
  else none

def expect? (c : Char) : Text → Option Text
  | d :: rest => if c == d then some rest else none
  | [] => none

def isLeap (year : Nat) : Bool := year % 4 == 0 && (year % 100 != 0 || year % 400 == 0)

def daysIn (year month : Nat) : Nat :=
  if month == 2 then if isLeap year then 29 else 28
  else if [4, 6, 9, 11].contains month then 30
  else 31

def date? (text : Text) : Option Text := do
  let (year, text) ← field? 4 0 9999 text
  let text ← expect? '-' text
  let (month, text) ← field? 2 1 12 text
  let text ← expect? '-' text
  let (_, text) ← field? 2 1 (daysIn year month) text
  some text

/-- A time with seconds, up to a leap second, and any places of a second. -/
def time? (text : Text) : Option Text := do
  let (_, text) ← field? 2 0 23 text
  let text ← expect? ':' text
  let (_, text) ← field? 2 0 59 text
  let text ← expect? ':' text
  let (_, text) ← field? 2 0 60 text
  match text with
  | '.' :: c :: rest => if c.isDigit then some (rest.dropWhile Char.isDigit) else some text
  | _ => some text

def offset? : Text → Option Text
  | 'Z' :: rest | 'z' :: rest => some rest
  | '+' :: rest | '-' :: rest => do
    let (_, rest) ← field? 2 0 23 rest
    let rest ← expect? ':' rest
    let (_, rest) ← field? 2 0 59 rest
    some rest
  | _ => none

def timeOfDate? : Text → Option Text
  | c :: rest =>
    if c == 'T' || c == 't' || c == ' ' then (time? rest).map fun rest => (offset? rest).getD rest
    else none
  | [] => none

def moment? (text : Text) : Option (Value × Text) :=
  match date? text with
  | some rest => some (.map, (timeOfDate? rest).getD rest)
  | none => (time? text).map (.map, ·)

/-- A number, a date or a time. The longest reading is tried first. -/
def number? (text : Text) : Option (Value × Text) :=
  (moment? text).or ((float? text).or ((specialFloat? text).or (integer? text)))

end ManifestNotice.Toml
