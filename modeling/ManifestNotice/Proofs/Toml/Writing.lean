import ManifestNotice.Proofs.Toml.Locality

/-!
# Written TOML strings

Every text can be written between double quotes, with escapes for quotes,
backslashes and control characters, and the grammar spells it back
(`basic_escaped`).
-/

namespace ManifestNotice.Toml

def fourDigits (n : Nat) : List Char :=
  ['0', '0', Text.upperHexDigit (n / 16), Text.upperHexDigit (n % 16)]

def isControl (c : Char) : Bool := c.toNat < 0x20 || c == '\x7f'

def escape (c : Char) : List Char :=
  if c == '"' || c == '\\' then ['\\', c]
  else if isControl c then '\\' :: 'u' :: fourDigits c.toNat
  else [c]

namespace Grammar

variable {text rest s : List Char} {c : Char}

theorem numbers_fourDigits {n : Nat} (hn : n < 0x80) (hc : c.toNat = n) :
    Numbers (fourDigits n) c := by
  have hall : ∀ n < 0x80, (fourDigits n).all isHexDigit ∧ valueOf 16 (fourDigits n) = n := by
    decide +kernel
  exact ⟨List.all_eq_true.mp (hall n hn).1, (hall n hn).2.trans hc.symm⟩

theorem spelled_escape (c : Char) (rest : List Char) : Spelled c (escape c ++ rest) rest := by
  unfold escape
  split
  · next hmark =>
    rw [Bool.or_eq_true, beq_iff_eq, beq_iff_eq] at hmark
    rcases hmark with rfl | rfl <;> exact .letter rfl
  · next hmark =>
    split
    · next hcontrol =>
      have hn : c.toNat < 0x80 := by
        rw [isControl, Bool.or_eq_true, decide_eq_true_eq, beq_iff_eq] at hcontrol
        rcases hcontrol with hlow | rfl
        · omega
        · decide
      exact @Spelled.four (fourDigits c.toNat) c rest rfl (numbers_fourDigits hn rfl)
    · next hcontrol =>
      refine .plain ?_
      rw [isControl, Bool.or_eq_true, decide_eq_true_eq, not_or, Nat.not_lt] at hcontrol
      simp_all [isBasic, isPlain]

/-- A text written character by character, up to the closing quote. -/
theorem basic_escaped (s rest : List Char) : Basic s (s.flatMap escape ++ '"' :: rest) rest := by
  induction s with
  | nil => exact .done
  | cons c s ih =>
    rw [List.flatMap_cons, List.append_assoc]
    exact .next (spelled_escape c _) ih

end Grammar

end ManifestNotice.Toml
