import ManifestNotice.Decimal.Binary64

/-!
# Shortest decimals

The fewest digits that read back as the same floating point number, and the
ways to write them.
-/

namespace ManifestNotice.Decimal

/-- `digits * 10 ^ exponent`, the digits not ending in zero unless alone. -/
structure Digits where
  digits : List Char
  exponent : Int
  deriving BEq, DecidableEq, Repr

inductive Tie where
  | up
  | even
  deriving BEq, DecidableEq, Repr

namespace Shortest

open Binary64 (powerOfTwo powerOfTen)

/-- Whether `n * 10 ^ p` rounds to the number `mantissa * 2 ^ exponent`. All
quantities are in quarters of a unit in the last place. -/
def readsBack (mantissa : Nat) (exponent : Int) (n : Nat) (p : Int) : Bool :=
  let point := 4 * n * powerOfTen p * powerOfTwo (-exponent)
  let unit := powerOfTen (-p) * powerOfTwo exponent
  let narrow := mantissa == Binary64.fullMantissa && exponent > Binary64.leastExponent
  let low := (4 * mantissa - if narrow then 1 else 2) * unit
  let high := (4 * mantissa + 2) * unit
  if mantissa % 2 == 0 then low ≤ point && point ≤ high else low < point && point < high

def magnitude (num den : Nat) : Int :=
  let guess : Int := (Binary64.digitCount num : Int) - Binary64.digitCount den
  if num * powerOfTen (-guess) < den * powerOfTen guess then guess - 1 else guess

/-- The point of the grid `10 ^ p` that is taken for the number, if one near
it reads back. -/
def onGrid? (tie : Tie) (mantissa : Nat) (exponent : Int) (p : Int) : Option Nat :=
  let (num, den) := Binary64.quotient mantissa exponent
  let num := num * powerOfTen (-p)
  let den := den * powerOfTen p
  let below := num / den
  let rest := 2 * (num % den)
  let above := below + 1
  match readsBack mantissa exponent below p, readsBack mantissa exponent above p with
  | true, true =>
    if rest < den then some below
    else if rest > den then some above
    else if tie == .even && below % 2 == 0 then some below
    else some above
  | true, false => some below
  | false, true => some above
  | false, false => none

def search (tie : Tie) (mantissa : Nat) (exponent lead : Int) : Nat → Nat × Int
  | 0 => (0, 0)
  | more + 1 =>
    let p := lead - (16 - more : Int)
    match onGrid? tie mantissa exponent p with
    | some n => (n, p)
    | none => search tie mantissa exponent lead more

def stripped : Nat → Nat → Int → Digits
  | 0, n, p => ⟨Nat.toDigits 10 n, p⟩
  | fuel + 1, n, p =>
    if n ≠ 0 && n % 10 == 0 then stripped fuel (n / 10) (p + 1) else ⟨Nat.toDigits 10 n, p⟩

end Shortest

/-- The shortest decimal of `mantissa * 2 ^ exponent`; seventeen digits always
suffice. -/
def shortest (tie : Tie) (mantissa : Nat) (exponent : Int) : Digits :=
  if mantissa == 0 then ⟨['0'], 0⟩
  else
    let (num, den) := Binary64.quotient mantissa exponent
    let (n, p) := Shortest.search tie mantissa exponent (Shortest.magnitude num den) 17
    Shortest.stripped 17 n p

namespace Digits

def zeros (n : Nat) : List Char := List.replicate n '0'

def positional (d : Digits) : List Char :=
  if 0 ≤ d.exponent then d.digits ++ zeros d.exponent.toNat ++ ['.', '0']
  else
    let places := (-d.exponent).toNat
    if places < d.digits.length then
      let whole := d.digits.length - places
      d.digits.take whole ++ ['.'] ++ d.digits.drop whole
    else ['0', '.'] ++ zeros (places - d.digits.length) ++ d.digits

def scientific (d : Digits) : List Char :=
  let exponent := (toString (d.exponent + d.digits.length - 1)).toList
  match d.digits with
  | [] => []
  | [c] => c :: 'e' :: exponent
  | c :: rest => c :: '.' :: rest ++ 'e' :: exponent

end Digits

def signed (negative : Bool) (text : List Char) : String :=
  String.ofList (if negative then '-' :: text else text)

def plainText : Binary64 → String
  | .finite negative mantissa exponent =>
    signed negative (shortest .up mantissa exponent).positional
  | .infinite negative => signed negative ['i', 'n', 'f']
  | .nan => "NaN"

/-- The text of a finite number, with an exponent below `10 ^ -5` and from
`10 ^ 16` on. -/
def compactText (negative : Bool) (mantissa : Nat) (exponent : Int) : String :=
  let d := shortest .even mantissa exponent
  let lead := d.exponent + d.digits.length
  signed negative (if mantissa == 0 || -5 < lead && lead ≤ 16 then d.positional else d.scientific)

end ManifestNotice.Decimal
