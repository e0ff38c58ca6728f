import ManifestNotice.Text.Composed
import ManifestNotice.Url.Domain.Direction
import ManifestNotice.Url.Domain.Form
import ManifestNotice.Url.Domain.Joining
import ManifestNotice.Url.Punycode

/-!
# Domain names

Names are brought into one form that is plain ASCII: every character is
written as it is in names, the text is composed, and labels outside ASCII are
in Punycode. A label may also come in Punycode, if it is one that would be
written so.
-/

namespace ManifestNotice.Url.Domain

/-- A label as it reads, and as it is written in ASCII. -/
structure Label where
  reading : List Char
  ascii : List Char
  deriving BEq, DecidableEq, Repr

namespace Label

def encodedMark : List Char := ['x', 'n', '-', '-']

def readingLimit : Nat := 1000

def encodedLimit : Nat := 2000

/-- Whether a reading is well formed: it starts with no mark, and joiners stand
where they belong. -/
def isReading (label : List Char) : Bool :=
  label.head?.all (!Text.isMark ·) && joinersFit [] label

/-- The reading of a label in Punycode, if it is in its one form. -/
def decode? (text : List Char) : Option (List Char) :=
  if text.length ≤ encodedLimit && text.getLast?.any (· != '-') then
    (Punycode.decode? text).filter fun label =>
      label.all (fun c => written? c == some [c]) && Text.composed label == label && isReading label
  else none

def ofText? (text : List Char) : Option Label :=
  if encodedMark.isPrefixOf text then
    if text.all isAscii then
      (decode? (text.drop encodedMark.length)).map fun reading => { reading, ascii := text }
    else none
  else if text.all isAscii then some { reading := text, ascii := text }
  else if text.length ≤ readingLimit && isReading text then
    some { reading := text, ascii := encodedMark ++ Punycode.encode text }
  else none

end Label

def ascii? (name : List Char) : Option (List Char) := do
  let text := Text.composed (← name.mapM written?).flatten
  let labels ← (text.splitOn '.').mapM Label.ofText?
  if keepsDirections (labels.map (·.reading)) then
    some (['.'].intercalate (labels.map (·.ascii)))
  else none

end ManifestNotice.Url.Domain
