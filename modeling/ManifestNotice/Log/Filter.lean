import ManifestNotice.Log
import ManifestNotice.Log.Pattern
import ManifestNotice.Text.Utf8

/-!
# Log filters

A filter is a list of directives such as `manifest_notify=debug`. The most
specific directive that fits an event says how severe it must be to be shown.
A directive bound to a span fits no event, as no event stands inside one.
-/

namespace ManifestNotice.Log

/-- The least severe level that is shown; none hides every level. -/
abbrev Threshold := Option Level

def Threshold.admits (threshold : Threshold) (level : Level) : Bool :=
  threshold.any (level.rank ≤ ·.rank)

namespace Threshold

def ofNumeral? (text : List Char) : Option Threshold :=
  let digits := match text with
    | '+' :: rest => rest
    | _ => text
  if digits.isEmpty || !digits.all Char.isDigit then none
  else
    match digits.foldl (fun n c => 10 * n + (c.toNat - 48)) 0 with
    | 0 => some none
    | n => (Level.all.find? (·.rank == n)).map some

/-- A level by number, or by name in any case. -/
def ofText? (text : List Char) : Option Threshold :=
  let name := String.ofList (text.map Char.toUpper)
  (ofNumeral? text).or <|
    if name == "OFF" then some none else (Level.all.find? (·.name == name)).map some

end Threshold

/-- A field that an event must carry, perhaps with a given value. -/
structure FieldPattern where
  name : String
  hasValue : Bool
  deriving BEq, DecidableEq, Repr

/-- Reads a name and a value; what follows another equals sign is left out. -/
def FieldPattern.ofText? (text : List Char) : Option FieldPattern :=
  match text.splitOn '=' with
  | name :: value :: _ =>
    if isPattern value then some ⟨String.ofList name, true⟩ else none
  | _ => some ⟨String.ofList text, false⟩

structure Directive where
  threshold : Threshold := some .trace
  target : Option String := none
  span : Option String := none
  fields : List FieldPattern := []
  deriving BEq, DecidableEq, Repr

namespace Directive

-- ---------------------------------------------------------------------------
-- Reading a directive
-- ---------------------------------------------------------------------------

/-- Where the reading of a directive stands, with the place in it where the
open piece starts. -/
inductive Stage where
  | start
  | levelOrTarget (start : Nat)
  | span (start : Nat)
  | field (start : Nat)
  | fieldsRead
  | spanRead
  | level (start : Nat)
  deriving BEq, DecidableEq, Repr

def opens (c : Char) : Bool := c == '-' || c == ':' || c == '_' || Text.isAlphanumeric c

/-- The text between two places, which count bytes. -/
def piece? (text : Bytes) (start stop : Nat) : Option String :=
  Utf8.decode? ((text.drop start).take (stop - start))

def step (text : Bytes) (here : Nat) (c : Char) (directive : Directive) :
    Stage → Option (Directive × Stage)
  | .start =>
    if c == '[' then some (directive, .span (here + 1))
    else if opens c then some (directive, .levelOrTarget here)
    else none
  | .levelOrTarget start => do
    if c == '=' then
      some ({ directive with target := some (← piece? text start here) }, .level (here + 1))
    else if c == '[' then
      some ({ directive with target := some (← piece? text start here) }, .span (here + 1))
    else some (directive, .levelOrTarget start)
  | .span start => do
    if c == ']' then
      some ({ directive with span := some (← piece? text start here) }, .spanRead)
    else if c == '\x7b' then
      let span ← piece? text start here
      some ({ directive with span := if span.isEmpty then none else some span }, .field (here + 1))
    else some (directive, .span start)
  | .field start => do
    if c == '\x7d' then
      let field ← piece? text start here
      if field.isEmpty then none
      let pattern ← FieldPattern.ofText? field.toList
      some ({ directive with fields := directive.fields ++ [pattern] }, .fieldsRead)
    else some (directive, .field start)
  | .fieldsRead => if c == ']' then some (directive, .spanRead) else none
  | .spanRead => if c == '=' then some (directive, .level (here + 1)) else none
  | .level start => some (directive, .level start)

def steps (text : Bytes) :
    Nat → List Char → Directive × Stage → Option (Directive × Stage)
  | _, [], state => some state
  | here, c :: rest, (directive, stage) =>
    (step text here c directive stage).bind (steps text (here + c.utf8Size) rest)

/-- A level that is left out shows everything. -/
def levelOf? (piece : List Char) : Option Threshold :=
  if piece.isEmpty then some (some .trace) else Threshold.ofText? piece

/-- Reads one directive. Its parts are told apart on the text without blanks
around it, and cut at the same places out of the text as it stands. -/
def parse? (text : List Char) : Option Directive := do
  let bytes := Utf8.encode text
  let seen := (Text.trim (String.ofList text)).toList
  match ← steps bytes 0 seen ({}, .start) with
  | (directive, .levelOrTarget start) => do
    let piece ← piece? bytes start bytes.length
    match Threshold.ofText? piece.toList with
    | some threshold => some { directive with threshold }
    | none => some { directive with target := some piece }
  | (directive, .level start) => do
    let piece ← piece? bytes start bytes.length
    let threshold ← levelOf? piece.toList
    some { directive with threshold }
  | (directive, .spanRead) => some directive
  | _ => none

-- ---------------------------------------------------------------------------
-- Which directive decides
-- ---------------------------------------------------------------------------

/-- Directives that can decide on an event without a span around it. -/
def isStatic (directive : Directive) : Bool :=
  directive.span.isNone && directive.fields.all (!·.hasValue)

def fits (directive : Directive) (event : Event) : Bool :=
  (directive.target.all fun t => t.toList.isPrefixOf event.target.toList) &&
    directive.fields.all fun f => f.name == "message" || event.fields.any (·.1 == f.name)

/-- The longer target is more specific, then the one with more fields; the
order of the texts settles the rest. -/
def compareSpecific (a b : Directive) : Ordering :=
  let size (d : Directive) := d.target.map (·.utf8ByteSize + 1) |>.getD 0
  compare (size a) (size b)
    |>.then (compare a.fields.length b.fields.length)
    |>.then (compare (a.target.getD "") (b.target.getD ""))
    |>.then (compareOfLessAndEq (a.fields.map (·.name)) (b.fields.map (·.name)))

/-- The most specific of the directives; of equals, the last. -/
def decisive? : List Directive → Option Directive
  | [] => none
  | d :: rest =>
    match decisive? rest with
    | none => some d
    | some e => if (compareSpecific d e).isGT then some d else some e

end Directive

abbrev Filter := List Directive

namespace Filter

/-- Directives between commas. Without any, errors are shown. -/
def parse? (text : String) : Option Filter := do
  let pieces := (text.toList.splitOn ',').filter (!·.isEmpty)
  let directives ← pieces.mapM Directive.parse?
  some (if directives.isEmpty then [{ threshold := some .error }] else directives)

def admits (filter : Filter) (event : Event) : Bool :=
  match Directive.decisive? (filter.filter fun d => d.isStatic && d.fits event) with
  | some directive => directive.threshold.admits event.level
  | none => false

def shown (filter : Filter) (events : List Event) : List Event := events.filter filter.admits

def ofVerbosity : Nat → String
  | 0 => "manifest_notify=info"
  | 1 => "manifest_notify=debug"
  | _ => "manifest_notify=trace,reqwest=debug"

def choose (verbosity : Nat) (chosen : Option String) : Filter :=
  ((chosen.bind parse?).or (parse? (ofVerbosity verbosity))).getD []

end Filter

end ManifestNotice.Log
