/-!
# Terminal sequences

Control characters steer a terminal, and an escape character starts a
sequence that steers it. What is left of a text without them is what it shows.
-/

namespace ManifestNotice.Text

/-- Where the reading of a text stands: outside of sequences, or in one of the
parts that a sequence has. Control sequences set colours and the like, device
strings and notes are for the terminal itself. -/
inductive Terminal where
  | ground
  | escape
  | escapeIntermediate
  | controlStart
  | controlParameter
  | controlIntermediate
  | controlIgnored
  | deviceStart
  | deviceParameter
  | deviceIntermediate
  | deviceIgnored
  | deviceData
  | command
  | note
  deriving BEq, DecidableEq, Repr

namespace Terminal

def between (low high : Nat) (c : Char) : Bool := low ≤ c.toNat && c.toNat ≤ high

/-- Controls that move on in the text, as blanks do. -/
def isLayout (c : Char) : Bool := c == '\t' || c == '\n' || c == '\x0c' || c == '\r'

/-- Whether a byte of the character ends a string. -/
def endsString (c : Char) : Bool := (String.utf8EncodeChar c).contains 0x9C

def afterEscape (c : Char) : Terminal :=
  if c == '[' then .controlStart
  else if c == ']' then .command
  else if c == 'P' then .deviceStart
  else if c == 'X' || c == '^' || c == '_' then .note
  else if between 0x20 0x2F c then .escapeIntermediate
  else if between 0x30 0x7E c then .ground
  else .escape

/-- What a character in a control sequence leads to. Parameters come first,
then intermediates, then the last character. -/
def inControl (state : Terminal) (c : Char) : Terminal :=
  if between 0x40 0x7E c then .ground
  else if state == .controlIgnored then state
  else if between 0x20 0x2F c then .controlIntermediate
  else if between 0x30 0x3F c then
    if state == .controlStart || state == .controlParameter && c ≤ ';' then .controlParameter
    else .controlIgnored
  else state

def inDevice (state : Terminal) (c : Char) : Terminal :=
  if between 0x40 0x7E c then .deviceData
  else if between 0x20 0x2F c then .deviceIntermediate
  else if between 0x30 0x3F c then
    if c != ':' && (state == .deviceStart || state == .deviceParameter && c ≤ ';') then
      .deviceParameter
    else .deviceIgnored
  else state

/-- Where the reading stands after a character. Two controls cancel a sequence,
and an escape character starts one anywhere. -/
def next (state : Terminal) (c : Char) : Terminal :=
  if c == '\x18' || c == '\x1a' then .ground
  else if c == '\x1b' then .escape
  else
    match state with
    | .ground => .ground
    | .escape => afterEscape c
    | .escapeIntermediate => if between 0x30 0x7E c then .ground else state
    | .controlStart | .controlParameter | .controlIntermediate | .controlIgnored =>
      inControl state c
    | .deviceStart | .deviceParameter | .deviceIntermediate => inDevice state c
    | .deviceIgnored | .deviceData | .note => if endsString c then .ground else state
    | .command => if c == '\x07' then .ground else state

/-- Whether a character is shown. Layout is shown within sequences, too, but
not within strings. -/
def shows (state : Terminal) (c : Char) : Bool :=
  match state with
  | .ground => isLayout c || 0x20 ≤ c.toNat && c != '\x7f'
  | .escape | .escapeIntermediate | .controlStart | .controlParameter | .controlIntermediate
  | .controlIgnored => isLayout c
  | _ => false

/-- What is shown of a text. Layout breaks a sequence off; if sequences resume,
the text that is shown behind it only interrupts the sequence. -/
def shownFrom (resumes : Bool) : Terminal → Bool → List Char → List Char
  | _, _, [] => []
  | held, showing, c :: rest =>
    let state := if showing && ground.shows c then .ground else held
    if state.shows c then
      c :: shownFrom resumes (if resumes && c.toNat < 0x80 then held else .ground) true rest
    else shownFrom resumes (held.next c) false rest

def shown (resumes : Bool) (text : String) : String :=
  String.ofList (shownFrom resumes .ground false text.toList)

end Terminal

end ManifestNotice.Text
