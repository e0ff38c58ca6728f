import ManifestNotice.Text.Utf8

/-!
# Base64

Three bytes as four characters of a set of 64; what is missing at the end is
filled up with equals signs.
-/

namespace ManifestNotice.Text.Base64

def digit (n : Nat) : Char :=
  if n < 26 then Char.ofNat (65 + n)
  else if n < 52 then Char.ofNat (71 + n)
  else if n < 62 then Char.ofNat (n - 4)
  else if n == 62 then '+'
  else '/'

/-- The four sextets of 24 bits. -/
def group (n : Nat) : List Char :=
  [digit (n / 0x40000 % 64), digit (n / 0x1000 % 64), digit (n / 0x40 % 64), digit (n % 64)]

def encode : Bytes → List Char
  | a :: b :: c :: rest => group (a.toNat * 0x10000 + b.toNat * 0x100 + c.toNat) ++ encode rest
  | [a, b] => (group (a.toNat * 0x10000 + b.toNat * 0x100)).take 3 ++ ['=']
  | [a] => (group (a.toNat * 0x10000)).take 2 ++ ['=', '=']
  | [] => []

end ManifestNotice.Text.Base64
