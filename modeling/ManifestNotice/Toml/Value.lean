import ManifestNotice.Decimal.Shortest

/-!
# TOML values

A value as far as it matters here: texts, numbers and truth values in full; of
anything made of parts, only that it is a sequence or a map. A date or a time
is a map as well.
-/

namespace ManifestNotice.Toml

abbrev Text := List Char

inductive Value where
  | text (chars : List Char)
  | integer (n : Int)
  | float (x : Decimal.Binary64)
  | boolean (b : Bool)
  | sequence
  | map
  deriving BEq, DecidableEq, Repr

def Value.describe : Value → String
  | .text _ => "string"
  | .integer n => "integer `" ++ toString n ++ "`"
  | .float x => "floating point `" ++ Decimal.plainText x ++ "`"
  | .boolean b => "boolean `" ++ toString b ++ "`"
  | .sequence => "sequence"
  | .map => "map"

/-- A part of a text, by how many characters stand from its start on, and how
many behind it. -/
structure Span where
  opened : Nat
  closed : Nat
  deriving BEq, DecidableEq, Repr

structure Key where
  name : List Char
  span : Span
  deriving BEq, DecidableEq, Repr

end ManifestNotice.Toml
