import ManifestNotice.Text.Utf8

/-!
# Reading faults

A fault of a JSON text has a cause and a place. The place is kept as the number
of bytes that were not read; line and column follow from the text.
-/

namespace ManifestNotice.Json

inductive Cause where
  | valueEnds
  | listEnds
  | objectEnds
  | textEnds
  | colonExpected
  | commaOrBracketExpected
  | commaOrBraceExpected
  | wordExpected
  | valueExpected
  | badEscape
  | badNumber
  | numberTooLarge
  | loneSurrogate
  | secondSurrogateMissing
  | controlCharacter
  | keyExpected
  | trailingComma
  | trailingCharacters
  | wrongType (found expected : String)
  | wrongValue (found expected : String)
  | wrongLength (length : Nat) (expected : String)
  | missingField (name : String)
  | duplicateField (name : String)
  deriving BEq, DecidableEq, Repr

def Cause.message : Cause → String
  | .valueEnds => "EOF while parsing a value"
  | .listEnds => "EOF while parsing a list"
  | .objectEnds => "EOF while parsing an object"
  | .textEnds => "EOF while parsing a string"
  | .colonExpected => "expected `:`"
  | .commaOrBracketExpected => "expected `,` or `]`"
  | .commaOrBraceExpected => "expected `,` or `\x7d`"
  | .wordExpected => "expected ident"
  | .valueExpected => "expected value"
  | .badEscape => "invalid escape"
  | .badNumber => "invalid number"
  | .numberTooLarge => "number out of range"
  | .loneSurrogate => "lone leading surrogate in hex escape"
  | .secondSurrogateMissing => "unexpected end of hex escape"
  | .controlCharacter => "control character (\\u0000-\\u001F) found while parsing a string"
  | .keyExpected => "key must be a string"
  | .trailingComma => "trailing comma"
  | .trailingCharacters => "trailing characters"
  | .wrongType found expected => "invalid type: " ++ found ++ ", expected " ++ expected
  | .wrongValue found expected => "invalid value: " ++ found ++ ", expected " ++ expected
  | .wrongLength length expected => "invalid length " ++ toString length ++ ", expected " ++ expected
  | .missingField name => "missing field `" ++ name ++ "`"
  | .duplicateField name => "duplicate field `" ++ name ++ "`"

structure Fault where
  cause : Cause
  /-- How many bytes lie behind the place of the fault. -/
  left : Nat
  deriving BEq, DecidableEq, Repr

namespace Fault

/-- A fault between what was read and the rest. -/
def before (cause : Cause) (rest : List Char) : Fault := ⟨cause, Utf8.size rest⟩

/-- A fault of the first byte of the rest. -/
def within (cause : Cause) (rest : List Char) : Fault := ⟨cause, Utf8.size rest - 1⟩

def lineBreak : UInt8 := 0x0A

/-- Lines count from one, columns are bytes since the last line break. -/
def message (fault : Fault) (text : List Char) : String :=
  let bytes := Utf8.encode text
  let read := bytes.take (bytes.length - fault.left)
  let line := read.count lineBreak + 1
  let column := (read.reverse.takeWhile (· != lineBreak)).length
  fault.cause.message ++ " at line " ++ toString line ++ " column " ++ toString column

end Fault

abbrev Reader (α : Type) := List Char → Except Fault (α × List Char)

def isBlank (c : Char) : Bool := c == ' ' || c == '\n' || c == '\t' || c == '\r'

def skipBlanks (text : List Char) : List Char := text.dropWhile isBlank

end ManifestNotice.Json
