import ManifestNotice.Proofs.Json.Grammar
import ManifestNotice.Toml.Document

/-!
# The grammar of TOML

What a text stands for, by the rules of TOML 1.0 and on their own: no reader of
this library comes in. A relation `X what text rest` says that the text starts
with a spelling of `what` and goes on with the rest; `States` puts them
together, and what the statements define is a matter of its own. The rules bound
what they take as the readers do: integers have 64 bits, a written float does
not pass the greatest one, and keys are joined and values nested up to
`depthLimit`.
-/

namespace ManifestNotice.Toml.Grammar

open Json.Grammar (Skips Leaves)

-- ---------------------------------------------------------------------------
-- Space and lines
-- ---------------------------------------------------------------------------

abbrev Spaces := Skips isSpace

inductive Newline : Text → Text → Prop
  | feed {rest} : Newline ('\n' :: rest) rest
  | both {rest} : Newline ('\r' :: '\n' :: rest) rest

inductive Comment : Text → Text → Prop
  | intro {text rest} : Skips isPlain text rest → Comment ('#' :: text) rest

inductive Trail : Text → Text → Prop
  | space {text rest} : Spaces text rest → Trail text rest
  | comment {text middle rest} : Spaces text middle → Comment middle rest → Trail text rest

/-- Space, line breaks and comments that end in one, in any number. -/
inductive Blank : Text → Text → Prop
  | refl {text} : Blank text text
  | space {c text rest} : isSpace c → Blank text rest → Blank (c :: text) rest
  | line {text middle rest} : Newline text middle → Blank middle rest → Blank text rest
  | comment {text middle after rest} :
      Comment text middle → Newline middle after → Blank after rest → Blank text rest

-- ---------------------------------------------------------------------------
-- Strings
-- ---------------------------------------------------------------------------

def letters : List (Char × Char) :=
  [('b', Char.ofNat 0x08), ('t', Char.ofNat 0x09), ('n', Char.ofNat 0x0A), ('f', Char.ofNat 0x0C),
   ('r', Char.ofNat 0x0D), ('"', '"'), ('\\', '\\')]

def Numbers (digits : List Char) (c : Char) : Prop :=
  (∀ d ∈ digits, isHexDigit d) ∧ valueOf 16 digits = c.toNat

inductive Spelled : Char → Text → Text → Prop
  | plain {c rest} : isBasic c → Spelled c (c :: rest) rest
  | letter {e c rest} : letters.lookup e = some c → Spelled c ('\\' :: e :: rest) rest
  | four {digits c rest} : digits.length = 4 → Numbers digits c →
      Spelled c ('\\' :: 'u' :: (digits ++ rest)) rest
  | eight {digits c rest} : digits.length = 8 → Numbers digits c →
      Spelled c ('\\' :: 'U' :: (digits ++ rest)) rest

inductive Basic : List Char → Text → Text → Prop
  | done {rest} : Basic [] ('"' :: rest) rest
  | next {c s text middle rest} : Spelled c text middle → Basic s middle rest →
      Basic (c :: s) text rest

inductive Literal : List Char → Text → Text → Prop
  | intro {s rest} : (∀ c ∈ s, isLiteral c) → Literal s (s ++ '\'' :: rest) rest

/-- Space and line breaks, as much as there is. -/
inductive Gap : Text → Text → Prop
  | done {rest} : Leaves isSpace rest → (∀ after, ¬ Newline rest after) → Gap rest rest
  | space {c text rest} : isSpace c → Gap text rest → Gap (c :: text) rest
  | line {text middle rest} : Newline text middle → Gap middle rest → Gap text rest

/-- A part of a string on several lines: a character, a line break, or a
backslash at the end of a line, which takes away what is between it and the
next character. -/
inductive BasicPart : List Char → Text → Text → Prop
  | char {c text rest} : Spelled c text rest → BasicPart [c] text rest
  | line {text rest} : Newline text rest → BasicPart ['\n'] text rest
  | joined {text middle after rest} : Spaces text middle → Newline middle after → Gap after rest →
      BasicPart [] ('\\' :: text) rest

inductive LiteralPart : List Char → Text → Text → Prop
  | char {c rest} : isLiteral c → LiteralPart [c] (c :: rest) rest
  | line {text rest} : Newline text rest → LiteralPart ['\n'] text rest

/-- A string on several lines ends in three quotes. Up to two may stand before
each of its parts, and before the three. -/
inductive Lines (quote : Char) (part : List Char → Text → Text → Prop) :
    List Char → Text → Text → Prop
  | close {n rest} : n ≤ 2 →
      Lines quote part (List.replicate n quote)
        (List.replicate n quote ++ quote :: quote :: quote :: rest) rest
  | next {n s t text middle rest} : n ≤ 2 → part s text middle →
      Lines quote part t middle rest →
      Lines quote part (List.replicate n quote ++ (s ++ t)) (List.replicate n quote ++ text) rest

/-- A line break right behind the opening quotes does not count. -/
inductive Opening : Text → Text → Prop
  | trimmed {text rest} : Newline text rest → Opening text rest
  | whole {text} : (∀ rest, ¬ Newline text rest) → Opening text text

inductive Quoted : List Char → Text → Text → Prop
  | basic {s text rest} : Basic s text rest → Quoted s ('"' :: text) rest
  | literal {s text rest} : Literal s text rest → Quoted s ('\'' :: text) rest
  | basicLines {s text middle rest} : Opening text middle → Lines '"' BasicPart s middle rest →
      Quoted s ('"' :: '"' :: '"' :: text) rest
  | literalLines {s text middle rest} : Opening text middle →
      Lines '\'' LiteralPart s middle rest → Quoted s ('\'' :: '\'' :: '\'' :: text) rest

-- ---------------------------------------------------------------------------
-- Keys
-- ---------------------------------------------------------------------------

/-- A key without dots; a bare one takes all the characters that it can. -/
inductive SimpleKey : List Char → Text → Text → Prop
  | bare {name rest} : name ≠ [] → (∀ c ∈ name, isBare c) → Leaves isBare rest →
      SimpleKey name (name ++ rest) rest
  | basic {name text rest} : Basic name text rest → SimpleKey name ('"' :: text) rest
  | literal {name text rest} : Literal name text rest → SimpleKey name ('\'' :: text) rest

inductive Path : List Key → Text → Text → Prop
  | last {name text start stop rest} :
      Spaces text start → SimpleKey name start stop → Spaces stop rest →
      Path [⟨name, ⟨start.length, stop.length⟩⟩] text rest
  | more {name keys text start stop middle rest} :
      Spaces text start → SimpleKey name start stop → Spaces stop ('.' :: middle) →
      Path keys middle rest → Path (⟨name, ⟨start.length, stop.length⟩⟩ :: keys) text rest

-- ---------------------------------------------------------------------------
-- Numbers
-- ---------------------------------------------------------------------------

/-- Digits of a class; between two of them one underscore may stand. -/
inductive Digits (p : Char → Bool) : List Char → Text → Text → Prop
  | one {c rest} : p c → Digits p [c] (c :: rest) rest
  | more {c ds text rest} : p c → Digits p ds text rest → Digits p (c :: ds) (c :: text) rest
  | apart {c ds text rest} : p c → Digits p ds text rest →
      Digits p (c :: ds) (c :: '_' :: text) rest

/-- A sign, which may be missing; a minus makes negative. -/
inductive Sign : Bool → Text → Text → Prop
  | none {text} : Sign false text text
  | plus {text} : Sign false ('+' :: text) text
  | minus {text} : Sign true ('-' :: text) text

inductive Decimal : Bool → List Char → Text → Text → Prop
  | zero {negative text rest} : Sign negative text ('0' :: rest) → Decimal negative ['0'] text rest
  | digits {negative ds text middle rest} : Sign negative text middle →
      Digits Char.isDigit ds middle rest → ds.head? ≠ some '0' → Decimal negative ds text rest

def signed (negative : Bool) (ds : List Char) : Int :=
  if negative then -(valueOf 10 ds : Int) else valueOf 10 ds

inductive Integer : Int → Text → Text → Prop
  | decimal {negative ds text rest} : Decimal negative ds text rest →
      Integer (signed negative ds) text rest
  | hexadecimal {ds text rest} : Digits isHexDigit ds text rest →
      Integer (valueOf 16 ds) ('0' :: 'x' :: text) rest
  | octal {ds text rest} : Digits (fun c => '0' ≤ c && c ≤ '7') ds text rest →
      Integer (valueOf 8 ds) ('0' :: 'o' :: text) rest
  | binary {ds text rest} : Digits (fun c => c == '0' || c == '1') ds text rest →
      Integer (valueOf 2 ds) ('0' :: 'b' :: text) rest

inductive Fraction : List Char → Text → Text → Prop
  | intro {ds text rest} : Digits Char.isDigit ds text rest → Fraction ds ('.' :: text) rest

inductive Exponent : Int → Text → Text → Prop
  | intro {c negative ds text middle rest} : c = 'e' ∨ c = 'E' → Sign negative text middle →
      Digits Char.isDigit ds middle rest → Exponent (signed negative ds) (c :: text) rest

inductive Float : Decimal.Binary64 → Text → Text → Prop
  | fraction {negative whole places text middle rest} :
      Decimal negative whole text middle → Fraction places middle rest →
      Float (.ofDecimal negative (valueOf 10 (whole ++ places)) (0 - places.length)) text rest
  | both {negative whole places exponent text middle after rest} :
      Decimal negative whole text middle → Fraction places middle after →
      Exponent exponent after rest →
      Float (.ofDecimal negative (valueOf 10 (whole ++ places)) (exponent - places.length)) text
        rest
  | exponent {negative whole exponent text middle rest} :
      Decimal negative whole text middle → Exponent exponent middle rest →
      Float (.ofDecimal negative (valueOf 10 whole) exponent) text rest

inductive SpecialFloat : Decimal.Binary64 → Text → Text → Prop
  | infinite {negative text rest} : Sign negative text ('i' :: 'n' :: 'f' :: rest) →
      SpecialFloat (.infinite negative) text rest
  | nan {negative text rest} : Sign negative text ('n' :: 'a' :: 'n' :: rest) →
      SpecialFloat .nan text rest

-- ---------------------------------------------------------------------------
-- Dates and times
-- ---------------------------------------------------------------------------

/-- Exactly so many digits, for a number in the bounds. -/
inductive Field (count low high : Nat) : Nat → Text → Text → Prop
  | intro {ds rest} : ds.length = count → (∀ c ∈ ds, c.isDigit) → low ≤ valueOf 10 ds →
      valueOf 10 ds ≤ high → Field count low high (valueOf 10 ds) (ds ++ rest) rest

inductive Date : Text → Text → Prop
  | intro {year month day text a b rest} : Field 4 0 9999 year text ('-' :: a) →
      Field 2 1 12 month a ('-' :: b) → Field 2 1 (daysIn year month) day b rest → Date text rest

/-- A time up to its seconds, of which a leap second is one. -/
inductive Clock : Text → Text → Prop
  | intro {hour minute second text a b rest} : Field 2 0 23 hour text (':' :: a) →
      Field 2 0 59 minute a (':' :: b) → Field 2 0 60 second b rest → Clock text rest

inductive Time : Text → Text → Prop
  | whole {text rest} : Clock text rest → Time text rest
  | places {c text middle rest} : Clock text ('.' :: c :: middle) → c.isDigit →
      Skips Char.isDigit middle rest → Time text rest

inductive Offset : Text → Text → Prop
  | none {c rest} : c = 'Z' ∨ c = 'z' → Offset (c :: rest) rest
  | hours {c hour minute text middle rest} : c = '+' ∨ c = '-' →
      Field 2 0 23 hour text (':' :: middle) → Field 2 0 59 minute middle rest →
      Offset (c :: text) rest

def joins (c : Char) : Bool := c == 'T' || c == 't' || c == ' '

inductive Moment : Text → Text → Prop
  | date {text rest} : Date text rest → Moment text rest
  | time {text rest} : Time text rest → Moment text rest
  | both {c text middle rest} : Date text (c :: middle) → joins c → Time middle rest →
      Moment text rest
  | placed {c text middle after rest} : Date text (c :: middle) → joins c → Time middle after →
      Offset after rest → Moment text rest

-- ---------------------------------------------------------------------------
-- Values
-- ---------------------------------------------------------------------------

inductive Simple : Value → Text → Text → Prop
  | text {s text rest} : Quoted s text rest → Simple (.text s) text rest
  | yes {rest} : Simple (.boolean true) ('t' :: 'r' :: 'u' :: 'e' :: rest) rest
  | no {rest} : Simple (.boolean false) ('f' :: 'a' :: 'l' :: 's' :: 'e' :: rest) rest
  | moment {text rest} : Moment text rest → Simple .map text rest
  | integer {n text rest} : Integer n text rest → inRange n → Simple (.integer n) text rest
  | float {x text rest} : Float x text rest → x ≠ .infinite false → Simple (.float x) text rest
  | special {x text rest} : SpecialFloat x text rest → Simple (.float x) text rest

section
variable (value : Value → Text → Text → Prop)

inductive Elements : Text → Text → Prop
  | close {text rest} : Blank text (']' :: rest) → Elements text rest
  | last {v text start stop rest} : Blank text start → value v start stop →
      Blank stop (']' :: rest) → Elements text rest
  | more {v text start stop middle rest} : Blank text start → value v start stop →
      Blank stop (',' :: middle) → Elements middle rest → Elements text rest

inductive Pair : List Key → Value → Span → Text → Text → Prop
  | intro {keys v text middle start rest} : Path keys text ('=' :: middle) →
      keys.length ≤ depthLimit → Spaces middle start → value v start rest →
      Pair keys v ⟨start.length, rest.length⟩ text rest

def names (keys : List Key) : List (List Char) := keys.map (·.name)

/-- The pairs of an inline table, each with the names that lead to it. -/
inductive Pairs : List (List (List Char)) → Text → Text → Prop
  | last {keys v span text middle rest} : Pair value keys v span text middle →
      Spaces middle ('\x7d' :: rest) → Pairs [names keys] text rest
  | more {keys v span paths text middle after rest} : Pair value keys v span text middle →
      Spaces middle (',' :: after) → Pairs paths after rest → Pairs (names keys :: paths) text rest

/-- No pair of an inline table stands at or below another. -/
inductive InlineTable : Text → Text → Prop
  | empty {text rest} : Spaces text ('\x7d' :: rest) → InlineTable text rest
  | pairs {paths text rest} : Pairs value paths text rest →
      paths.Pairwise (fun a b => ¬ a <+: b ∧ ¬ b <+: a) → InlineTable text rest

inductive Compound : Value → Text → Text → Prop
  | array {text rest} : Elements value text rest → Compound .sequence ('[' :: text) rest
  | table {text rest} : InlineTable value text rest → Compound .map ('\x7b' :: text) rest

end

/-- A value in which arrays and inline tables nest no deeper than given. -/
def Nested : Nat → Value → Text → Text → Prop
  | 0 => Simple
  | depth + 1 => fun value text rest =>
    Simple value text rest ∨ Compound (Nested depth) value text rest

-- ---------------------------------------------------------------------------
-- Statements
-- ---------------------------------------------------------------------------

inductive Stated : Statement → Text → Text → Prop
  | pair {path key v span text rest} : Pair (Nested depthLimit) (path ++ [key]) v span text rest →
      Stated (.pair path key v span) text rest
  | table {path key text rest} : Path (path ++ [key]) text (']' :: rest) →
      path.length < depthLimit →
      Stated (.table path key ⟨text.length + 1, rest.length⟩) ('[' :: text) rest
  | tables {path key text rest} : Path (path ++ [key]) text (']' :: ']' :: rest) →
      path.length < depthLimit →
      Stated (.tables path key ⟨text.length + 2, rest.length⟩) ('[' :: '[' :: text) rest

/-- One statement a line at most. -/
inductive States : List Statement → Text → Prop
  | blank {text} : Trail text [] → States [] text
  | blankLine {statements text middle rest} : Trail text middle → Newline middle rest →
      States statements rest → States statements text
  | last {statement text start stop} : Spaces text start → Stated statement start stop →
      Trail stop [] → States [statement] text
  | line {statement statements text start stop middle rest} : Spaces text start →
      Stated statement start stop → Trail stop middle → Newline middle rest →
      States statements rest → States (statement :: statements) text

def body : Text → Text
  | '\uFEFF' :: rest => rest
  | text => text

-- ---------------------------------------------------------------------------
-- Lengths
-- ---------------------------------------------------------------------------

section
variable {text rest s ds : List Char} {c : Char} {p : Char → Bool}

@[grind →]
theorem skips_length (h : Skips p text rest) : rest.length ≤ text.length := by
  obtain ⟨run, rfl, -⟩ := h
  simp

@[grind →]
theorem Newline.length_lt (h : Newline text rest) : rest.length < text.length := by
  cases h with grind

@[grind →]
theorem Comment.length_lt (h : Comment text rest) : rest.length < text.length := by
  cases h with grind

@[grind →]
theorem Trail.length_le (h : Trail text rest) : rest.length ≤ text.length := by
  cases h with grind

@[grind →]
theorem Blank.length_le (h : Blank text rest) : rest.length ≤ text.length := by
  induction h with grind

@[grind →]
theorem Spelled.length_lt (h : Spelled c text rest) : rest.length < text.length := by
  cases h with grind

@[grind →]
theorem Basic.length_lt (h : Basic s text rest) : rest.length < text.length := by
  induction h with grind

@[grind →]
theorem Literal.length_lt (h : Literal s text rest) : rest.length < text.length := by
  cases h with grind

@[grind →]
theorem Gap.length_le (h : Gap text rest) : rest.length ≤ text.length := by
  induction h with grind

@[grind →]
theorem BasicPart.length_lt (h : BasicPart s text rest) : rest.length < text.length := by
  cases h with grind

@[grind →]
theorem LiteralPart.length_lt (h : LiteralPart s text rest) : rest.length < text.length := by
  cases h with grind

theorem Lines.length_lt {quote : Char} {part : List Char → Text → Text → Prop}
    (hpart : ∀ s text rest, part s text rest → rest.length < text.length)
    (h : Lines quote part s text rest) : rest.length < text.length := by
  induction h with grind

@[grind →]
theorem Opening.length_le (h : Opening text rest) : rest.length ≤ text.length := by
  cases h with grind

@[grind →]
theorem Quoted.length_lt (h : Quoted s text rest) : rest.length < text.length := by
  cases h with grind [→ Lines.length_lt]

@[grind →]
theorem SimpleKey.length_lt (h : SimpleKey s text rest) : rest.length < text.length := by
  cases h with grind [List.length_pos_iff]

@[grind →]
theorem Path.length_lt {keys : List Key} (h : Path keys text rest) :
    rest.length < text.length := by
  induction h with grind

@[grind →]
theorem Digits.length_lt (h : Digits p ds text rest) : rest.length < text.length := by
  induction h with grind

@[grind →]
theorem Sign.length_le {negative : Bool} (h : Sign negative text rest) :
    rest.length ≤ text.length := by
  cases h with grind

@[grind →]
theorem Decimal.length_lt {negative : Bool} (h : Decimal negative ds text rest) :
    rest.length < text.length := by
  cases h with grind

@[grind →]
theorem Integer.length_lt {n : Int} (h : Integer n text rest) : rest.length < text.length := by
  cases h with grind

@[grind →]
theorem Fraction.length_lt (h : Fraction ds text rest) : rest.length < text.length := by
  cases h with grind

@[grind →]
theorem Exponent.length_lt {n : Int} (h : Exponent n text rest) : rest.length < text.length := by
  cases h with grind

@[grind →]
theorem Float.length_lt {x : Decimal.Binary64} (h : Float x text rest) :
    rest.length < text.length := by
  cases h with grind

@[grind →]
theorem SpecialFloat.length_lt {x : Decimal.Binary64} (h : SpecialFloat x text rest) :
    rest.length < text.length := by
  cases h with grind

@[grind →]
theorem Field.length_le {count low high n : Nat} (h : Field count low high n text rest) :
    rest.length ≤ text.length := by
  cases h with grind

@[grind →]
theorem Date.length_lt (h : Date text rest) : rest.length < text.length := by
  cases h with grind

@[grind →]
theorem Clock.length_lt (h : Clock text rest) : rest.length < text.length := by
  cases h with grind

@[grind →]
theorem Time.length_lt (h : Time text rest) : rest.length < text.length := by
  cases h with grind

@[grind →]
theorem Offset.length_lt (h : Offset text rest) : rest.length < text.length := by
  cases h with grind

@[grind →]
theorem Moment.length_lt (h : Moment text rest) : rest.length < text.length := by
  cases h with grind

@[grind →]
theorem Simple.length_lt {v : Value} (h : Simple v text rest) : rest.length < text.length := by
  cases h with grind

end

end ManifestNotice.Toml.Grammar
