/-!
# Binary floating point

Numbers of 53 significant bits, and the one nearest to a quotient.
-/

namespace ManifestNotice.Decimal

/-- What a 64 bit floating point number stands for. A finite one is
`mantissa * 2 ^ exponent`, up to its sign. -/
inductive Binary64 where
  | finite (negative : Bool) (mantissa : Nat) (exponent : Int)
  | infinite (negative : Bool)
  | nan
  deriving BEq, DecidableEq, Repr

/-- The quotient rounded to a whole number, halves to the even neighbour. -/
def roundDiv (num den : Nat) : Nat :=
  let q := num / den
  let r := num % den
  if 2 * r > den || 2 * r == den && q % 2 == 1 then q + 1 else q

namespace Binary64

/-- A power of two, one if the exponent is below zero. -/
def powerOfTwo (exponent : Int) : Nat := Nat.pow 2 exponent.toNat

def powerOfTen (exponent : Int) : Nat := Nat.pow 10 exponent.toNat

def fullMantissa : Nat := 0x10000000000000

/-- `num / den` in units of `2 ^ exponent`, as a quotient again. -/
def scaled (num den : Nat) (exponent : Int) : Nat × Nat :=
  (num * powerOfTwo (-exponent), den * powerOfTwo exponent)

def leastExponent : Int := -1074

def greatestExponent : Int := 971

/-- The mantissa and exponent nearest to `num / den`, a half going to the even
mantissa; none past the greatest finite number. -/
def nearest? (num den : Nat) : Option (Nat × Int) :=
  if num == 0 then some (0, leastExponent)
  else
    let guess : Int := (num.log2 : Int) - den.log2 - 52
    let (n, d) := scaled num den guess
    let exponent := max (if n / d < fullMantissa then guess - 1 else guess) leastExponent
    let (n, d) := scaled num den exponent
    let mantissa := roundDiv n d
    let (mantissa, exponent) :=
      if mantissa == 2 * fullMantissa then (fullMantissa, exponent + 1) else (mantissa, exponent)
    if exponent > greatestExponent then none else some (mantissa, exponent)

def ofQuotient (negative : Bool) (num den : Nat) : Binary64 :=
  match nearest? num den with
  | some (mantissa, exponent) => .finite negative mantissa exponent
  | none => .infinite negative

def digitCount (n : Nat) : Nat := (Nat.toDigits 10 n).length

/-- The number nearest to `digits * 10 ^ exponent`. Exponents far outside the
range are settled without the power. -/
def ofDecimal (negative : Bool) (digits : Nat) (exponent : Int) : Binary64 :=
  if digits == 0 then .finite negative 0 leastExponent
  else
    let magnitude : Int := digitCount digits + exponent
    if magnitude > 310 then .infinite negative
    else if magnitude < -330 then .finite negative 0 leastExponent
    else ofQuotient negative (digits * powerOfTen exponent) (powerOfTen (-exponent))

def quotient (mantissa : Nat) (exponent : Int) : Nat × Nat :=
  (mantissa * powerOfTwo exponent, powerOfTwo (-exponent))

def mul? (a b : Nat × Int) : Option (Nat × Int) :=
  let (n, d) := quotient a.1 a.2
  let (n', d') := quotient b.1 b.2
  nearest? (n * n') (d * d')

def div? (a b : Nat × Int) : Option (Nat × Int) :=
  let (n, d) := quotient a.1 a.2
  let (n', d') := quotient b.1 b.2
  nearest? (n * d') (d * n')

end Binary64

end ManifestNotice.Decimal
