import ManifestNotice.Json.Fault
import ManifestNotice.Text.Hex

/-!
# Quoted texts

The text between double quotes, with escapes. Reading turns an escape into its
character; skipping looks at its form only.
-/

namespace ManifestNotice.Json.Quoted

-- ---------------------------------------------------------------------------
-- Writing
-- ---------------------------------------------------------------------------

def twoDigits (n : Nat) : List Char := [Nat.digitChar (n / 16), Nat.digitChar (n % 16)]

def writeChar (c : Char) : List Char :=
  match c with
  | '"' => ['\\', '"']
  | '\\' => ['\\', '\\']
  | '\x08' => ['\\', 'b']
  | '\t' => ['\\', 't']
  | '\n' => ['\\', 'n']
  | '\x0c' => ['\\', 'f']
  | '\r' => ['\\', 'r']
  | c => if c.toNat < 0x20 then ['\\', 'u', '0', '0'] ++ twoDigits c.toNat else [c]

/-- Only quotes, backslashes and controls are escaped. -/
def write (text : List Char) : List Char := '"' :: text.flatMap writeChar ++ ['"']

-- ---------------------------------------------------------------------------
-- Escapes
-- ---------------------------------------------------------------------------

def letter? : Char → Option Char
  | '"' => some '"'
  | '\\' => some '\\'
  | '/' => some '/'
  | 'b' => some '\x08'
  | 'f' => some '\x0c'
  | 'n' => some '\n'
  | 'r' => some '\r'
  | 't' => some '\t'
  | _ => none

/-- Four bytes are read in any case. -/
def unitFault (text : List Char) : Fault :=
  if Utf8.size text < 4 then ⟨.textEnds, 0⟩ else ⟨.badEscape, Utf8.size text - 4⟩

def unit? (a b c d : Char) : Option Nat := do
  let a ← Text.hexDigit? a
  let b ← Text.hexDigit? b
  let c ← Text.hexDigit? c
  let d ← Text.hexDigit? d
  some (((a * 16 + b) * 16 + c) * 16 + d)

def unit : Reader Nat
  | a :: b :: c :: d :: rest =>
    match unit? a b c d with
    | some n => .ok (n, rest)
    | none => .error (unitFault (a :: b :: c :: d :: rest))
  | text => .error (unitFault text)

def isHighSurrogate (n : Nat) : Bool := 0xD800 ≤ n && n ≤ 0xDBFF

def isLowSurrogate (n : Nat) : Bool := 0xDC00 ≤ n && n ≤ 0xDFFF

def secondUnit : Reader Nat
  | '\\' :: 'u' :: rest => unit rest
  | [] | ['\\'] => .error (.before .textEnds [])
  | '\\' :: rest => .error (.within .secondSurrogateMissing rest)
  | text => .error (.within .secondSurrogateMissing text)

def paired (high low : Nat) : Char := Char.ofNat ((high - 0xD800) * 0x400 + (low - 0xDC00) + 0x10000)

/-- The character whose first unit is given. -/
def characterOf (high : Nat) (text : List Char) : Except Fault (Char × List Char) :=
  if isLowSurrogate high then .error (.before .loneSurrogate text)
  else if isHighSurrogate high then
    match secondUnit text with
    | .error fault => .error fault
    | .ok (low, rest) =>
      if isLowSurrogate low then .ok (paired high low, rest) else .error (.before .loneSurrogate rest)
  else .ok (Char.ofNat high, text)

def character : Reader Char := fun text =>
  match unit text with
  | .error fault => .error fault
  | .ok (high, rest) => characterOf high rest

def escape : Reader Char
  | [] => .error (.before .textEnds [])
  | 'u' :: rest => character rest
  | c :: rest =>
    match letter? c with
    | some d => .ok (d, rest)
    | none => .error (.within .badEscape (c :: rest))

/-- What stands behind an escape of any form. -/
def skipEscape : List Char → Except Fault (List Char)
  | [] => .error (.before .textEnds [])
  | 'u' :: rest => (unit rest).map (·.2)
  | c :: rest => if (letter? c).isSome then .ok rest else .error (.within .badEscape (c :: rest))

theorem length_unit {text rest : List Char} {n : Nat} (h : unit text = .ok (n, rest)) :
    rest.length < text.length := by
  unfold unit at h
  split at h
  · split at h
    · cases h; simp only [List.length_cons]; omega
    · cases h
  · cases h

theorem length_secondUnit {text rest : List Char} {n : Nat} (h : secondUnit text = .ok (n, rest)) :
    rest.length < text.length := by
  unfold secondUnit at h
  split at h
  · have := length_unit h
    simp only [List.length_cons]; omega
  all_goals cases h

theorem length_characterOf {text rest : List Char} {high : Nat} {c : Char}
    (h : characterOf high text = .ok (c, rest)) : rest.length ≤ text.length := by
  unfold characterOf at h
  split at h
  · cases h
  · split at h
    · split at h
      · cases h
      · rename_i low r hs
        have := length_secondUnit hs
        split at h
        · simp only [Except.ok.injEq, Prod.mk.injEq] at h
          have hr := h.2
          subst hr; omega
        · cases h
    · simp only [Except.ok.injEq, Prod.mk.injEq] at h
      have hr := h.2
      subst hr; omega

theorem length_character {text rest : List Char} {c : Char} (h : character text = .ok (c, rest)) :
    rest.length < text.length := by
  unfold character at h
  split at h
  · cases h
  · rename_i high r hu
    have := length_unit hu
    have := length_characterOf h
    omega

theorem length_escape {text rest : List Char} {c : Char} (h : escape text = .ok (c, rest)) :
    rest.length < text.length := by
  unfold escape at h
  split at h
  · cases h
  · have := length_character h
    simp only [List.length_cons]; omega
  · split at h
    · cases h; simp
    · cases h

theorem length_skipEscape {text rest : List Char} (h : skipEscape text = .ok rest) :
    rest.length < text.length := by
  unfold skipEscape at h
  split at h
  · cases h
  · rename_i r
    match hu : unit r with
    | .error _ => simp [hu, Except.map] at h
    | .ok (n, after) =>
      have := length_unit hu
      simp only [hu, Except.map, Except.ok.injEq] at h
      subst h
      simp only [List.length_cons]; omega
  · split at h
    · cases h; simp
    · cases h

-- ---------------------------------------------------------------------------
-- Reading and skipping
-- ---------------------------------------------------------------------------

def isControl (c : Char) : Bool := c.toNat < 0x20

def read (text : List Char) : Except Fault (List Char × List Char) :=
  match text with
  | [] => .error (.before .textEnds [])
  | '"' :: rest => .ok ([], rest)
  | '\\' :: rest =>
    match _h : escape rest with
    | .error fault => .error fault
    | .ok (c, rest) => (read rest).map fun (text, rest) => (c :: text, rest)
  | c :: rest =>
    if isControl c then .error (.within .controlCharacter (c :: rest))
    else (read rest).map fun (text, rest) => (c :: text, rest)
termination_by text.length
decreasing_by
  · have := length_escape _h
    simp only [List.length_cons]; omega
  · simp only [List.length_cons]; omega

def skip (text : List Char) : Except Fault (List Char) :=
  match text with
  | [] => .error (.before .textEnds [])
  | '"' :: rest => .ok rest
  | '\\' :: rest =>
    match _h : skipEscape rest with
    | .error fault => .error fault
    | .ok rest => skip rest
  | c :: rest =>
    if isControl c then .error (.before .controlCharacter (c :: rest)) else skip rest
termination_by text.length
decreasing_by
  · have := length_skipEscape _h
    simp only [List.length_cons]; omega
  · simp only [List.length_cons]; omega

end ManifestNotice.Json.Quoted
