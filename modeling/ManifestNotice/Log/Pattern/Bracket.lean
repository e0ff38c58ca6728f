import ManifestNotice.Log.Pattern.Atom

/-!
# Classes in brackets

A class is a list of characters, ranges, named classes and further brackets,
or two classes with an operator between them. What is told of it is how deep
it nests.
-/

namespace ManifestNotice.Log.Pattern

structure Bracket where
  items : Nat := 0
  /-- How deep the deepest item nests. -/
  depth : Nat := 0
  /-- How deep the class before the last operator nests. -/
  left : Option Nat := none
  /-- There are only hyphens so far. -/
  isFresh : Bool := true
  deriving BEq, DecidableEq, Repr

namespace Bracket

def add (b : Bracket) (depth : Nat) : Bracket :=
  { b with items := b.items + 1, depth := max b.depth depth, isFresh := false }

/-- How deep the class nests, up to here. Two items or more are a level of
their own, and so is an operator. -/
def level (b : Bracket) : Nat :=
  let right := if 2 ≤ b.items then b.depth + 1 else b.depth
  match b.left with
  | none => right
  | some left => max left right + 1

def operate (b : Bracket) : Bracket := { left := some b.level, isFresh := false }

def names : List String :=
  ["alnum", "alpha", "ascii", "blank", "cntrl", "digit", "graph", "lower", "print", "punct",
   "space", "upper", "word", "xdigit"]

/-- Reads a named class behind its bracket: whether it is negated, and what
follows it. -/
def named? : List Char → Option (Bool × List Char)
  | ':' :: text =>
    let negated := text.head? == some '^'
    let text := if negated then text.drop 1 else text
    match text.dropWhile (· != ':') with
    | ':' :: ']' :: rest =>
      if names.contains (String.ofList (text.takeWhile (· != ':'))) then some (negated, rest)
      else none
    | _ => none
  | _ => none

/-- Reads what follows an opening bracket up to the first item. A negated class
holds characters outside ASCII. -/
def opened? (flags : Flags) (text : List Char) : Option (List Char) :=
  match flags.skip text with
  | '^' :: rest => if flags.unicode then some rest else none
  | text => some text

def item? (flags : Flags) : List Char → Option (Atom × List Char)
  | [] => none
  | '\\' :: rest => Atom.escaped? flags rest
  | c :: rest => some (.literal c false, rest)

/-- The character that decides on a hyphen before it. -/
def behindHyphen (flags : Flags) (text : List Char) : Option Char :=
  if flags.spaced then
    match text.dropWhile Text.isBlank with
    | '#' :: rest => (rest.dropWhile Text.isBlank).head?
    | rest => rest.head?
  else text.head?

def member? (flags : Flags) (text : List Char) : Option (List Char) := do
  let (first, rest) ← item? flags text
  if !first.standsInBrackets flags then none
  match flags.skip rest with
  | [] => none
  | '-' :: behind =>
    let next := behindHyphen flags behind
    if next == some ']' || next == some '-' then some ('-' :: behind)
    else do
      let (last, rest) ← item? flags (flags.skip behind)
      match first, last with
      | .literal a _, .literal b _ =>
        if a ≤ b && last.standsInBrackets flags then some rest else none
      | _, _ => none
  | rest => some rest

def isOperator (c : Char) : Bool := c == '&' || c == '-' || c == '~'

/-- Reads a class whose brackets are open, the innermost first: how deep it
nests, and what follows it. Each round takes a character at least. -/
def read? (flags : Flags) : Nat → List Bracket → List Char → Option (Nat × List Char)
  | 0, _, _ => none
  | fuel + 1, brackets, text =>
    match brackets, flags.skip text with
    | [], _ | _, [] => none
    | b :: outer, c :: rest =>
      if b.isFresh && (c == '-' || c == ']' && b.items == 0) then
        if flags.needsTable then none
        else read? flags fuel ({ b.add 0 with isFresh := c == '-' } :: outer) rest
      else if c == ']' then
        match outer with
        | [] => some (b.level + 1, rest)
        | o :: outer => read? flags fuel (o.add (b.level + 1) :: outer) rest
      else if c == '[' then
        match named? rest with
        | some (negated, rest) =>
          if flags.needsTable || negated && !flags.unicode then none
          else read? flags fuel (b.add 0 :: outer) rest
        | none => do
          let rest ← opened? flags rest
          read? flags fuel ({} :: b :: outer) rest
      else if isOperator c && rest.head? == some c then
        read? flags fuel (b.operate :: outer) (rest.drop 1)
      else do
        let rest ← member? flags (c :: rest)
        read? flags fuel (b.add 0 :: outer) rest

end Bracket

end ManifestNotice.Log.Pattern
