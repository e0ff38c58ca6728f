import ManifestNotice.Text.Blank
import ManifestNotice.Text.Hex

/-!
# Atoms of regular expressions

Characters, escapes and the flags that say what they may be. There are no
tables of character classes, so what would need one is not to be had: classes
by name outside ASCII, and letters in any case.
-/

namespace ManifestNotice.Log.Pattern

/-- The flags that decide whether an expression is well formed. -/
structure Flags where
  anyCase : Bool := false
  unicode : Bool := true
  /-- Blanks and comments are passed over. -/
  spaced : Bool := false
  deriving BEq, DecidableEq, Repr

/-- The text behind blanks and comments; a comment ends with its line. -/
def skipBlanks (inComment : Bool) : List Char → List Char
  | [] => []
  | c :: rest =>
    if inComment then skipBlanks (c != '\n') rest
    else if Text.isBlank c then skipBlanks false rest
    else if c == '#' then skipBlanks true rest
    else c :: rest

namespace Flags

def skip (flags : Flags) (text : List Char) : List Char :=
  if flags.spaced then skipBlanks false text else text

/-- Whether every character would have to be looked up in a table. -/
def needsTable (flags : Flags) : Bool := flags.anyCase && flags.unicode

end Flags

inductive Atom where
  /-- A character, perhaps written as a byte. -/
  | literal (c : Char) (isByte : Bool)
  /-- One of the classes that have a letter. -/
  | lettered (negated : Bool)
  /-- A place between characters, perhaps at the edge of a word. -/
  | place (ofWord : Bool)
  | anything
  deriving BEq, DecidableEq, Repr

namespace Atom

/-- Whether the atom may stand by itself. Without `unicode` nothing may match a
part of a character. -/
def standsAlone (flags : Flags) : Atom → Bool
  | .literal c isByte => !flags.needsTable && (flags.unicode || !isByte || c.toNat < 0x80)
  | .lettered negated => !flags.unicode && !negated
  | .place ofWord => !(flags.unicode && ofWord)
  | .anything => flags.unicode

def standsInBrackets (flags : Flags) : Atom → Bool
  | .literal c _ => !flags.needsTable && (flags.unicode || c.toNat < 0x80)
  | .lettered negated => !flags.unicode && !negated
  | _ => false

def digits? (flags : Flags) : Nat → Nat → List Char → Option (Nat × List Char)
  | 0, n, text => some (n, flags.skip text)
  | count + 1, n, text =>
    match flags.skip text with
    | [] => none
    | c :: rest => do
      let d ← Text.hexDigit? c
      digits? flags count (16 * n + d) rest

def code? (flags : Flags) (count : Nat) (text : List Char) : Option (Atom × List Char) := do
  let (n, rest) ← digits? flags count 0 text
  if n.isValidChar then some (.literal (Char.ofNat n) (count == 2), rest) else none

def control? (c : Char) : Option Char :=
  match c with
  | 'a' => some '\x07'
  | 'f' => some '\x0c'
  | 't' => some '\t'
  | 'n' => some '\n'
  | 'r' => some '\r'
  | 'v' => some '\x0b'
  | _ => none

def isEscapable (c : Char) : Bool := c.toNat < 0x80 && !c.isAlphanum && c != '<' && c != '>'

def escaped? (flags : Flags) : List Char → Option (Atom × List Char)
  | [] => none
  | c :: rest =>
    match c with
    | 'x' => code? flags 2 rest
    | 'u' => code? flags 4 rest
    | 'U' => code? flags 8 rest
    | 'd' | 's' | 'w' => some (.lettered false, rest)
    | 'D' | 'S' | 'W' => some (.lettered true, rest)
    | 'A' | 'z' => some (.place false, rest)
    | 'b' | 'B' | '<' | '>' => some (.place true, rest)
    | _ =>
      match control? c with
      | some control => some (.literal control false, rest)
      | none => if isEscapable c then some (.literal c false, rest) else none

end Atom

end ManifestNotice.Log.Pattern
