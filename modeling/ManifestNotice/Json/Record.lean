import ManifestNotice.Json.Skip
import ManifestNotice.Text.Quoted

/-!
# Records

A record has named fields of known types. As an object its fields come in any
order, each at most once, among members that are skipped; as an array they come
in their order. Reading stops at the first fault.
-/

namespace ManifestNotice.Json

-- ---------------------------------------------------------------------------
-- Typed values
-- ---------------------------------------------------------------------------

/-- The fault of a value of another type: what it is, as far as that shows in
front. -/
def mismatch (expected : String) (text : List Char) : Fault :=
  let wrong (found : String) (rest : List Char) : Fault := .before (.wrongType found expected) rest
  let after (found : String) (rest : Except Fault (List Char)) : Fault :=
    match rest with
    | .ok rest => wrong found rest
    | .error fault => fault
  let numeral (negative : Bool) (rest : List Char) : Fault :=
    match Numeral.readNumber negative rest with
    | .ok (n, rest) => wrong n.describe rest
    | .error fault => fault
  match text with
  | 'n' :: rest => after "null" (skipWord ['u', 'l', 'l'] rest)
  | 't' :: rest => after "boolean `true`" (skipWord ['r', 'u', 'e'] rest)
  | 'f' :: rest => after "boolean `false`" (skipWord ['a', 'l', 's', 'e'] rest)
  | '-' :: rest => numeral true rest
  | '"' :: rest =>
    match Quoted.read rest with
    | .ok (value, rest) => wrong ("string " ++ Text.quoted (String.ofList value)) rest
    | .error fault => fault
  | '[' :: _ => wrong "sequence" text
  | '\x7b' :: _ => wrong "map" text
  | c :: _ => if c.isDigit then numeral false text else .within .valueExpected text
  | [] => .within .valueEnds []

def readText : Reader (List Char) := fun text =>
  match skipBlanks text with
  | '"' :: rest => Quoted.read rest
  | rest => .error (mismatch "a string" rest)

/-- A natural number of 64 bits. -/
def readNatural : Reader Nat := fun text =>
  match skipBlanks text with
  | '-' :: rest => (Numeral.readNumber true rest).bind check
  | c :: rest =>
    if c.isDigit then (Numeral.readNumber false (c :: rest)).bind check
    else .error (mismatch "u64" (c :: rest))
  | [] => .error (mismatch "u64" [])
where
  check : Number × List Char → Except Fault (Nat × List Char)
    | (.natural n, rest) => .ok (n, rest)
    | (.negative n, rest) =>
      .error (.before (.wrongValue (Number.negative n).describe "u64") rest)
    | (n, rest) => .error (.before (.wrongType n.describe "u64") rest)

/-- A value, or null in its place. -/
def readOptional {α : Type} (read : Reader α) : Reader (Option α) := fun text =>
  match skipBlanks text with
  | 'n' :: rest => (skipWord ['u', 'l', 'l'] rest).map ((none, ·))
  | rest => (read rest).map fun (value, rest) => (some value, rest)

-- ---------------------------------------------------------------------------
-- Records
-- ---------------------------------------------------------------------------

structure Field (σ : Type) where
  name : String
  isSet : σ → Bool
  read : σ → Reader σ

structure Record (σ : Type) where
  title : String
  fields : List (Field σ)
  /-- Fields that an object must have. -/
  required : List String
  /-- How many fields an array must have. -/
  least : Nat
  start : σ

namespace Record

variable {σ : Type}

def field? (record : Record σ) (key : List Char) : Option (Field σ) :=
  record.fields.find? (·.name == String.ofList key)

def missing? (record : Record σ) (state : σ) : Option String :=
  (record.fields.find? fun f => record.required.contains f.name && !f.isSet state).map (·.name)

/-- The text behind a closing mark, if that comes next. -/
def passed (mark : Char) (text : List Char) : List Char :=
  match skipBlanks text with
  | c :: rest => if c == mark then rest else c :: rest
  | [] => []

/-- The key of the next member, behind a comma unless it is the first. -/
def nextKey (first : Bool) : Reader (Option (List Char)) := fun text =>
  match first, skipBlanks text with
  | _, '\x7d' :: rest => .ok (none, rest)
  | _, [] => .error (.within .objectEnds [])
  | true, rest => key rest
  | false, ',' :: rest =>
    match skipBlanks rest with
    | '\x7d' :: rest => .error (.within .trailingComma ('\x7d' :: rest))
    | rest => key rest
  | false, rest => .error (.within .commaOrBraceExpected rest)
where
  key : Reader (Option (List Char))
    | '"' :: rest => (Quoted.read rest).map fun (key, rest) => (some key, rest)
    | [] => .error (.within .valueEnds [])
    | rest => .error (.within .keyExpected rest)

def member (record : Record σ) (state : σ) (key : List Char) : Reader σ := fun text =>
  match record.field? key with
  | none => do
    let rest ← skipColon text >>= skip
    pure (state, rest)
  | some field =>
    if field.isSet state then .error (.before (.duplicateField field.name) (passed '\x7d' text))
    else skipColon text >>= field.read state

def members (record : Record σ) : Nat → Bool → σ → Reader σ
  | 0, _, _, text => .error (.before .objectEnds text)
  | fuel + 1, first, state, text => do
    match ← nextKey first text with
    | (none, rest) =>
      match record.missing? state with
      | some name => throw (.before (.missingField name) rest)
      | none => pure (state, rest)
    | (some key, rest) => do
      let (state, rest) ← record.member state key rest
      members record fuel false state rest

def nextItem (first : Bool) (text : List Char) : Except Fault (Option (List Char)) :=
  match first, skipBlanks text with
  | _, ']' :: _ => .ok none
  | _, [] => .error (.within .listEnds [])
  | true, rest => .ok (some rest)
  | false, ',' :: rest =>
    match skipBlanks rest with
    | ']' :: rest => .error (.within .trailingComma (']' :: rest))
    | [] => .error (.within .valueEnds [])
    | rest => .ok (some rest)
  | false, rest => .error (.within .commaOrBracketExpected rest)

def closeArray (text : List Char) : Except Fault (List Char) :=
  match skipBlanks text with
  | ']' :: rest => .ok rest
  | ',' :: rest =>
    match skipBlanks rest with
    | ']' :: rest => .error (.within .trailingComma (']' :: rest))
    | rest => .error (.within .trailingCharacters rest)
  | [] => .error (.within .listEnds [])
  | rest => .error (.within .trailingCharacters rest)

def items (record : Record σ) : Nat → List (Field σ) → σ → Reader σ
  | _, [], state, text => (closeArray text).map ((state, ·))
  | index, field :: fields, state, text => do
    match ← nextItem (index == 0) text with
    | some rest => do
      let (state, rest) ← field.read state rest
      items record (index + 1) fields state rest
    | none =>
      let rest := passed ']' text
      if index < record.least then
        throw (.before (.wrongLength index (record.title ++ " with " ++
          toString record.fields.length ++ " elements")) rest)
      else pure (state, rest)

def read (record : Record σ) : Reader σ := fun text =>
  match skipBlanks text with
  | '[' :: rest => record.items 0 record.fields record.start rest
  | '\x7b' :: rest => record.members (rest.length + 1) true record.start rest
  | rest => .error (mismatch record.title rest)

def ofText (record : Record σ) (text : List Char) : Except Fault σ := do
  let (state, rest) ← record.read text
  match skipBlanks rest with
  | [] => pure state
  | rest => throw (.within .trailingCharacters rest)

end Record

end ManifestNotice.Json
