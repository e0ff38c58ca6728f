import ManifestNotice.Text.Hex
import ManifestNotice.Text.Utf8

/-!
# Percent encoding

Characters that may not stand in a part of an address are written as the
hexadecimal values of their bytes.
-/

namespace ManifestNotice.Url

abbrev EncodeSet := Char → Bool

namespace EncodeSet

def controls : EncodeSet := fun c => c.toNat < 0x20 || 0x7E < c.toNat

def plus (set : EncodeSet) (chars : List Char) : EncodeSet := fun c => set c || chars.contains c

def fragment : EncodeSet := plus controls [' ', '"', '<', '>', Char.ofNat 0x60]

def query : EncodeSet := plus controls [' ', '"', '#', '<', '>']

def specialQuery : EncodeSet := plus query ['\'']

def path : EncodeSet := plus fragment ['#', '?', '\x7b', '\x7d']

def userinfo : EncodeSet := plus path ['/', ':', ';', '=', '@', '[', '\\', ']', '^', '|']

end EncodeSet

def percentByte (b : UInt8) : List Char := ['%', Text.upperHexDigit (b.toNat / 16), Text.upperHexDigit (b.toNat % 16)]

def percentEncode (set : EncodeSet) (text : List Char) : List Char :=
  text.flatMap fun c => if set c then (String.utf8EncodeChar c).flatMap percentByte else [c]

/-- The bytes that a text stands for. A percent sign without two digits behind
it stands for itself. -/
def percentDecode : List Char → Bytes
  | [] => []
  | '%' :: a :: b :: rest =>
    match Text.hexDigit? a, Text.hexDigit? b with
    | some m, some n => (16 * m + n).toUInt8 :: percentDecode rest
    | _, _ => 0x25 :: percentDecode (a :: b :: rest)
  | c :: rest => String.utf8EncodeChar c ++ percentDecode rest

end ManifestNotice.Url
