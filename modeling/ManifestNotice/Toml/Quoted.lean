import ManifestNotice.Text.Hex
import ManifestNotice.Toml.Value

/-!
# TOML strings and keys

Readers take a text and give what they read and the text behind it. Those of
strings start behind the opening quotes.
-/

namespace ManifestNotice.Toml

/-- Characters that may stand for themselves in a comment: all but the control
characters, the tab excepted. -/
def isPlain (c : Char) : Bool := c == '\t' || 0x20 ≤ c.toNat && c != '\x7f'

def isSpace (c : Char) : Bool := c == ' ' || c == '\t'

def skipSpace (text : Text) : Text := text.dropWhile isSpace

def newline? : Text → Option Text
  | '\n' :: rest => some rest
  | '\r' :: '\n' :: rest => some rest
  | _ => none

-- ---------------------------------------------------------------------------
-- Escapes
-- ---------------------------------------------------------------------------

def isHexDigit (c : Char) : Bool := (Text.hexDigit? c).isSome

def scalar? (digits : List Char) : Option Char := do
  let ds ← digits.mapM Text.hexDigit?
  let n := ds.foldl (fun n d => 16 * n + d) 0
  if n.isValidChar then some (Char.ofNat n) else none

def shortEscape? : Char → Option Char
  | 'b' => some '\x08'
  | 't' => some '\t'
  | 'n' => some '\n'
  | 'f' => some '\x0c'
  | 'r' => some '\r'
  | '"' => some '"'
  | '\\' => some '\\'
  | _ => none

def push (c : Char) (read : Option (List Char × Text)) : Option (List Char × Text) :=
  read.map fun (s, rest) => (c :: s, rest)

-- ---------------------------------------------------------------------------
-- Strings on one line
-- ---------------------------------------------------------------------------

def isBasic (c : Char) : Bool := isPlain c && c != '"' && c != '\\'

def isLiteral (c : Char) : Bool := isPlain c && c != '\''

def basic? : Text → Option (List Char × Text)
  | [] => none
  | '"' :: rest => some ([], rest)
  | '\\' :: 'u' :: a :: b :: c :: d :: rest => do push (← scalar? [a, b, c, d]) (basic? rest)
  | '\\' :: 'U' :: a :: b :: c :: d :: e :: f :: g :: h :: rest => do
    push (← scalar? [a, b, c, d, e, f, g, h]) (basic? rest)
  | '\\' :: c :: rest => do push (← shortEscape? c) (basic? rest)
  | c :: rest => if isBasic c then push c (basic? rest) else none

def literal? (text : Text) : Option (List Char × Text) :=
  match text.dropWhile isLiteral with
  | '\'' :: rest => some (text.takeWhile isLiteral, rest)
  | _ => none

-- ---------------------------------------------------------------------------
-- Strings on several lines
-- ---------------------------------------------------------------------------

/-- What a backslash at the end of a line has begun: it wants the line to end,
then takes in all space up to the next character. -/
inductive Gap where
  | none
  | opened
  | crossed
  deriving BEq, DecidableEq, Repr

/-- Up to two more quotes before the three that close belong to the string. -/
def closing (quote : Char) : Text → List Char × Text
  | a :: b :: rest =>
    if a == quote && b == quote then ([quote, quote], rest)
    else if a == quote then ([quote], b :: rest)
    else ([], a :: b :: rest)
  | [a] => if a == quote then ([quote], []) else ([], [a])
  | [] => ([], [])

def basicLines? (gap : Gap) : Text → Option (List Char × Text)
  | [] => none
  | '\r' :: '\n' :: rest =>
    if gap == .none then push '\n' (basicLines? .none rest) else basicLines? .crossed rest
  | '\n' :: rest =>
    if gap == .none then push '\n' (basicLines? .none rest) else basicLines? .crossed rest
  | c :: rest =>
    if gap != .none && isSpace c then basicLines? gap rest
    else if gap == .opened then none
    else
      match c, rest with
      | '"', '"' :: '"' :: rest => some (closing '"' rest)
      | '"', rest => push '"' (basicLines? .none rest)
      | '\\', 'u' :: a :: b :: c :: d :: rest => do
        push (← scalar? [a, b, c, d]) (basicLines? .none rest)
      | '\\', 'U' :: a :: b :: c :: d :: e :: f :: g :: h :: rest => do
        push (← scalar? [a, b, c, d, e, f, g, h]) (basicLines? .none rest)
      | '\\', c :: rest =>
        match shortEscape? c with
        | some c => push c (basicLines? .none rest)
        | none =>
          if isSpace c then basicLines? .opened rest
          else if c == '\n' then basicLines? .crossed rest
          else
            match c, rest with
            | '\r', '\n' :: rest => basicLines? .crossed rest
            | _, _ => none
      | c, rest => if isBasic c then push c (basicLines? .none rest) else none

def literalLines? : Text → Option (List Char × Text)
  | [] => none
  | '\'' :: '\'' :: '\'' :: rest => some (closing '\'' rest)
  | '\r' :: '\n' :: rest => push '\n' (literalLines? rest)
  | '\n' :: rest => push '\n' (literalLines? rest)
  | c :: rest => if isPlain c then push c (literalLines? rest) else none

/-- A line break right behind the opening quotes does not count. -/
def trimNewline (text : Text) : Text := (newline? text).getD text

def string? : Text → Option (List Char × Text)
  | '"' :: '"' :: '"' :: rest => basicLines? .none (trimNewline rest)
  | '"' :: rest => basic? rest
  | '\'' :: '\'' :: '\'' :: rest => literalLines? (trimNewline rest)
  | '\'' :: rest => literal? rest
  | _ => none

-- ---------------------------------------------------------------------------
-- Keys
-- ---------------------------------------------------------------------------

def isBare (c : Char) : Bool := c.isAlphanum || c == '_' || c == '-'

def simpleKey? (text : Text) : Option (Key × Text) := do
  let (name, rest) ← match text with
    | '"' :: rest => basic? rest
    | '\'' :: rest => literal? rest
    | text =>
      let name := text.takeWhile isBare
      if name.isEmpty then none else some (name, text.dropWhile isBare)
  some (⟨name, ⟨text.length, rest.length⟩⟩, rest)

def keys? : Nat → Text → Option (List Key × Text)
  | 0, _ => none
  | fuel + 1, text => do
    let (key, rest) ← simpleKey? (skipSpace text)
    match skipSpace rest with
    | '.' :: rest => do
      let (keys, rest) ← keys? fuel rest
      some (key :: keys, rest)
    | rest => some ([key], rest)

/-- No more keys than this are joined, and values nest no deeper. -/
def depthLimit : Nat := 79

def path? (text : Text) : Option (List Key × Text) := keys? depthLimit text

end ManifestNotice.Toml
