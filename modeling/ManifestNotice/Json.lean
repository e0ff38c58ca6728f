import ManifestNotice.Json.Numeral
import ManifestNotice.Json.Quoted

/-!
# JSON

The values of JSON, and their text without blanks.
-/

namespace ManifestNotice

inductive Json where
  | null
  | bool (value : Bool)
  | number (numeral : Json.Numeral)
  | string (value : List Char)
  | array (items : List Json)
  | object (members : List (List Char × Json))

namespace Json

def Numeral.write (numeral : Numeral) : List Char :=
  (if numeral.negative then ['-'] else []) ++ numeral.whole ++
    (numeral.fraction.elim [] ('.' :: ·)) ++
    numeral.exponent.elim [] fun (negative, digits) =>
      'e' :: (if negative then '-' :: digits else digits)

def word : Bool → List Char
  | true => ['t', 'r', 'u', 'e']
  | false => ['f', 'a', 'l', 's', 'e']

mutual

def write : Json → List Char
  | .null => ['n', 'u', 'l', 'l']
  | .bool value => word value
  | .number numeral => numeral.write
  | .string value => Quoted.write value
  | .array items => '[' :: writeItems items
  | .object members => '\x7b' :: writeMembers members

def writeItems : List Json → List Char
  | [] => [']']
  | [item] => item.write ++ [']']
  | item :: next :: rest => item.write ++ ',' :: writeItems (next :: rest)

def writeMembers : List (List Char × Json) → List Char
  | [] => ['\x7d']
  | [(key, value)] => Quoted.write key ++ ':' :: value.write ++ ['\x7d']
  | (key, value) :: next :: rest =>
    Quoted.write key ++ ':' :: value.write ++ ',' :: writeMembers (next :: rest)

end

end Json

end ManifestNotice
