import ManifestNotice.Log.Pattern.Bracket
import ManifestNotice.Text.Alphanumeric

/-!
# Values in directives

A directive may ask for a field with a value: a number, or a regular
expression that the value matches. Only events inside spans are ever compared
with it, but a value that is neither makes a directive unreadable.
-/

namespace ManifestNotice.Log

namespace Pattern

-- ---------------------------------------------------------------------------
-- Numbers
-- ---------------------------------------------------------------------------

def isExponent : List Char → Bool
  | [] => true
  | c :: rest =>
    let digits := if rest.head? == some '+' || rest.head? == some '-' then rest.drop 1 else rest
    (c == 'e' || c == 'E') && !digits.isEmpty && digits.all Char.isDigit

/-- Digits with a point perhaps and an exponent, or a word for what is no
finite number. -/
def isUnsigned (text : List Char) : Bool :=
  let whole := text.takeWhile Char.isDigit
  let rest := text.dropWhile Char.isDigit
  let (part, rest) :=
    if rest.head? == some '.' then
      ((rest.drop 1).takeWhile Char.isDigit, (rest.drop 1).dropWhile Char.isDigit)
    else ([], rest)
  !(whole ++ part).isEmpty && isExponent rest ||
    ["inf", "infinity", "nan"].contains (String.ofList (text.map Char.toLower))

def isNumber (text : List Char) : Bool :=
  if text.head? == some '+' || text.head? == some '-' then isUnsigned (text.drop 1)
  else isUnsigned text

-- ---------------------------------------------------------------------------
-- Groups
-- ---------------------------------------------------------------------------

structure Group where
  flags : Flags := {}
  pieces : Nat := 0
  /-- How deep the deepest piece of the branch nests. -/
  depth : Nat := 0
  /-- How deep the last piece nests, if it can be repeated. -/
  last : Option Nat := none
  /-- How deep the deepest of the branches before nests. -/
  branches : Option Nat := none
  deriving BEq, DecidableEq, Repr

namespace Group

def add (group : Group) (depth : Nat) : Group :=
  { group with
    pieces := group.pieces + 1
    depth := max group.depth depth
    last := some depth }

/-- Flags are a piece that cannot be repeated. -/
def addFlags (group : Group) (flags : Flags) : Group :=
  { group with flags, pieces := group.pieces + 1, last := none }

def repeated? (group : Group) : Option Group :=
  group.last.map fun depth =>
    { group with depth := max group.depth (depth + 1), last := some (depth + 1) }

/-- How deep the branch nests. Two pieces or more are a level of their own. -/
def branchLevel (group : Group) : Nat := if 2 ≤ group.pieces then group.depth + 1 else group.depth

def branch (group : Group) : Group :=
  { flags := group.flags, branches := some (max (group.branches.getD 0) group.branchLevel) }

def level (group : Group) : Nat :=
  match group.branches with
  | none => group.branchLevel
  | some depth => max depth group.branchLevel + 1

end Group

/-- An expression that is being read: its names, and its groups from the
innermost. -/
structure Reader where
  names : List (List Char) := []
  group : Group := {}
  outer : List Group := []
  deriving BEq, DecidableEq, Repr

-- ---------------------------------------------------------------------------
-- Reading
-- ---------------------------------------------------------------------------

def flagLetters : List Char := ['i', 'm', 's', 'U', 'u', 'R', 'x']

def Flags.set (flags : Flags) (letter : Char) (value : Bool) : Flags :=
  match letter with
  | 'i' => { flags with anyCase := value }
  | 'u' => { flags with unicode := value }
  | 'x' => { flags with spaced := value }
  | _ => flags

/-- Reads flags up to the colon or the parenthesis behind them. Those behind a
hyphen are turned off, and none is there twice. -/
def flags? (seen : List Char) (flags : Flags) :
    List Char → Option (Flags × List Char × List Char)
  | [] => none
  | c :: rest =>
    if c == ':' || c == ')' then
      if seen.head? == some '-' then none else some (flags, seen, c :: rest)
    else if seen.contains c then none
    else if c == '-' then flags? (c :: seen) flags rest
    else if flagLetters.contains c then
      flags? (c :: seen) (flags.set c (!seen.contains '-')) rest
    else none

def isName : List Char → Bool
  | [] => false
  | c :: rest =>
    (c == '_' || Text.isAlphabetic c) &&
      rest.all fun c => ['_', '.', '[', ']'].contains c || Text.isAlphanumeric c

namespace Reader

def add (reader : Reader) (depth : Nat) : Reader := { reader with group := reader.group.add depth }

def enter (reader : Reader) (flags : Flags) : Reader :=
  { reader with group := { flags }, outer := reader.group :: reader.outer }

def named? (reader : Reader) (text : List Char) : Option (Reader × List Char) :=
  let name := text.takeWhile (· != '>')
  match text.dropWhile (· != '>') with
  | [] => none
  | _ :: rest =>
    if isName name && !reader.names.contains name then
      some ({ reader with names := name :: reader.names }.enter reader.group.flags, rest)
    else none

def opened? (reader : Reader) (text : List Char) : Option (Reader × List Char) :=
  match reader.group.flags.skip text with
  | '?' :: 'P' :: '<' :: rest => reader.named? rest
  | '?' :: '<' :: rest => reader.named? rest
  | '?' :: rest =>
    match flags? [] reader.group.flags rest with
    | some (flags, _, ':' :: rest) => some (reader.enter flags, rest)
    | some (flags, _ :: _, _ :: rest) =>
      some ({ reader with group := reader.group.addFlags flags }, rest)
    | _ => none
  | rest => some (reader.enter reader.group.flags, rest)

def closed? (reader : Reader) : Option Reader :=
  match reader.outer with
  | [] => none
  | group :: outer => some { reader with group := group.add (reader.group.level + 1), outer }

def atom? (reader : Reader) (atom : Atom) : Option Reader :=
  if atom.standsAlone reader.group.flags then some (reader.add 0) else none

/-- One step at the character `c`, with `fuel` for the characters behind it. An
opening brace starts a count, and those are not complete before the value
ends. -/
def step? (fuel : Nat) (reader : Reader) (c : Char) (rest : List Char) :
    Option (Reader × List Char) :=
  let flags := reader.group.flags
  match c with
  | '(' => reader.opened? rest
  | ')' => reader.closed?.map (·, rest)
  | '|' => some ({ reader with group := reader.group.branch }, rest)
  | '[' => do
    let rest ← Bracket.opened? flags rest
    let (depth, rest) ← Bracket.read? flags fuel [{}] rest
    some (reader.add depth, rest)
  | '?' | '*' | '+' => do
    let group ← reader.group.repeated?
    some ({ reader with group }, if rest.head? == some '?' then rest.drop 1 else rest)
  | '\x7b' => none
  | '\\' => do
    let (atom, rest) ← Atom.escaped? flags rest
    some (← reader.atom? atom, rest)
  | '.' => do some (← reader.atom? .anything, rest)
  | '^' | '$' => do some (← reader.atom? (.place false), rest)
  | c => do some (← reader.atom? (.literal c false), rest)

/-- Reads to the end. Each round takes a character at least. -/
def read? : Nat → Reader → List Char → Option Reader
  | 0, _, _ => none
  | fuel + 1, reader, text =>
    match reader.group.flags.skip text with
    | [] => some reader
    | c :: rest => do
      let (reader, rest) ← reader.step? fuel c rest
      read? fuel reader rest

end Reader

def depthLimit : Nat := 250

/-- Whether a text without commas, equals signs and closing braces is a
regular expression. -/
def isExpression (text : List Char) : Bool :=
  match Reader.read? (text.length + 1) {} text with
  | some reader => reader.outer.isEmpty && reader.group.level ≤ depthLimit
  | none => false

end Pattern

def isPattern (value : List Char) : Bool := Pattern.isNumber value || Pattern.isExpression value

end ManifestNotice.Log
