import ManifestNotice.Json.Record
import ManifestNotice.Proofs.Json.Skip

/-!
# Typed values, read

A reader decodes (`Decodes`) if it takes a spelled value as what the value stands
for to it, if it is anything, and if all that it takes has the form of a value.
The readers of texts and natural numbers do, and so does one that takes null as well.
-/

namespace ManifestNotice.Json.Grammar

variable {α β : Type} {reader : Reader α} {decode : Json → Option α}

structure Decodes (reader : Reader α) (decode : Json → Option α) : Prop where
  value {v text start rest} : Spaces text start → Reads (.value v) start rest → Stops rest →
    (reader text).toOption = (decode v).map (·, rest)
  form {text a rest} : reader text = .ok (a, rest) →
    ∃ start, Spaces text start ∧ Forms .value start rest

theorem Decodes.map (h : Decodes reader decode) (f : α → β) :
    Decodes (fun text => (reader text).map fun (a, rest) => (f a, rest))
      fun v => (decode v).map f where
  value hs hv hstops := by
    rw [toOption_map, h.value hs hv hstops, Option.map_map, Option.map_map]
    rfl
  form hread := by
    obtain ⟨⟨a, _⟩, hread, heq⟩ := map_eq_ok_iff.mp hread
    cases heq
    exact h.form hread

-- ---------------------------------------------------------------------------
-- Texts
-- ---------------------------------------------------------------------------

def textOf? : Json → Option (List Char)
  | .string text => some text
  | _ => none

theorem textOf?_eq_some_iff : textOf? v = some text ↔ v = .string text := by
  cases v <;> simp [textOf?]

theorem readText_decodes : Decodes readText textOf? where
  value {v text start rest} hs hv hstops := by
    rw [readText, hv.forms.skipBlanks_eq hs]
    cases hv with
    | @string _ quoted _ hq =>
      show (Quoted.read quoted).toOption = _
      rw [read_eq_ok_iff.mpr hq]
      rfl
    | number hn =>
      split
      · exact absurd hn.head (by decide)
      · rfl
    | _ => rfl
  form {text a rest} hread := by
    have hs := spaces_skipBlanks text
    rw [readText] at hread
    split at hread
    · next hquote =>
      rw [hquote] at hs
      exact ⟨_, hs, .string (read_eq_ok_iff.mp hread).enclosed⟩
    · cases hread

-- ---------------------------------------------------------------------------
-- Natural numbers
-- ---------------------------------------------------------------------------

def naturalOf? : Json → Option Nat
  | .number n =>
    match n.value? with
    | some (.natural m) => some m
    | _ => none
  | _ => none

/-- A number without sign, fraction and exponent that fits into 64 bits. -/
inductive IsNatural : Json → Nat → Prop
  | intro {digits} : Numeral.natural digits < Numeral.wordLimit →
      IsNatural (.number { negative := false, whole := digits, fraction := none, exponent := none })
        (Numeral.natural digits)

theorem naturalOf?_eq_some_iff : naturalOf? v = some m ↔ IsNatural v m := by
  constructor
  · intro h
    unfold naturalOf? at h
    split at h
    · next n =>
      split at h
      · next hvalue =>
        cases h
        obtain ⟨⟩ := n
        obtain ⟨rfl, rfl, rfl, rfl, hm⟩ := value?_eq_natural_iff.mp hvalue
        exact .intro hm
      · cases h
    · cases h
  · rintro ⟨hm⟩
    rw [naturalOf?, value?_eq_natural_iff.mpr ⟨rfl, rfl, rfl, rfl, hm⟩]

theorem readNumber_check (h : Number n (minus n.negative ++ text) rest) (hs : Stops rest) :
    ((Numeral.readNumber n.negative text).bind readNatural.check).toOption =
      (naturalOf? (.number n)).map (·, rest) := by
  rw [Numeral.readNumber, h.read hs]
  dsimp only [bind, Except.bind, naturalOf?]
  rcases n.value? with - | (_ | _ | _) <;> rfl

theorem number_of_readNumber (h : (Numeral.readNumber negative text).bind readNatural.check =
    .ok (m, rest)) : ∃ n, Number n (minus negative ++ text) rest ∧ n.value? = some (.natural m) := by
  obtain ⟨⟨number, behind⟩, hnumber, hcheck⟩ := bind_eq_ok_iff.mp h
  unfold Numeral.readNumber at hnumber
  obtain ⟨⟨n, _⟩, hread, hvalue⟩ := bind_eq_ok_iff.mp hnumber
  obtain ⟨-, hn⟩ := number_of_read hread
  dsimp only at hvalue
  split at hvalue
  · next hsome =>
    cases hvalue
    cases number <;> cases hcheck
    exact ⟨n, hn, hsome⟩
  · cases hvalue

theorem readNatural_digit (hc : c.isDigit) (hfront : skipBlanks text = c :: after) :
    readNatural text = (Numeral.readNumber false (c :: after)).bind readNatural.check := by
  rw [readNatural, hfront]
  split <;> simp_all

theorem readNatural_decodes : Decodes readNatural naturalOf? where
  value {v text start rest} hs hv hstops := by
    have hfront := hv.forms.skipBlanks_eq hs
    cases hv with
    | @number n _ _ hn =>
      obtain ⟨d, digits, heq, hd⟩ := hn.digit
      rw [heq] at hn hfront
      have hcheck := readNumber_check hn hstops
      cases hnegative : n.negative with
      | true =>
        rw [hnegative] at hcheck hfront
        rw [readNatural, hfront]
        exact hcheck
      | false =>
        rw [hnegative] at hcheck hfront
        rw [readNatural_digit hd hfront]
        exact hcheck
    | _ =>
      rw [readNatural, hfront]
      rfl
  form {text a rest} hread := by
    have hs := spaces_skipBlanks text
    rw [readNatural] at hread
    split at hread
    · next hminus =>
      rw [hminus] at hs
      obtain ⟨n, hn, -⟩ := number_of_readNumber hread
      exact ⟨_, hs, .number hn⟩
    · next hfront =>
      rw [hfront] at hs
      split at hread
      · obtain ⟨n, hn, -⟩ := number_of_readNumber hread
        exact ⟨_, hs, .number hn⟩
      · cases hread
    · cases hread

-- ---------------------------------------------------------------------------
-- Null
-- ---------------------------------------------------------------------------

def optionalOf? (decode : Json → Option α) : Json → Option (Option α)
  | .null => some none
  | v => (decode v).map some

theorem optionalOf?_eq_some_iff (hnull : decode .null = none) : optionalOf? decode v = some held ↔
    (v = .null ∧ held = none) ∨ ∃ a, decode v = some a ∧ held = some a := by
  cases v with
  | null => simp [optionalOf?, hnull, eq_comm]
  | _ => simp [optionalOf?, Option.map_eq_some_iff, eq_comm (b := held)]

theorem readOptional_decodes (h : Decodes reader decode) :
    Decodes (readOptional reader) (optionalOf? decode) where
  value {v text start rest} hs hv hstops := by
    obtain ⟨c, after, rfl, hc⟩ := hv.value_head
    rw [readOptional, skipBlanks_starts hs hc]
    by_cases hn : c = 'n'
    · subst hn
      cases hv with
      | null => rfl
      | number hn => exact absurd hn.head (by decide)
    · have hnull : optionalOf? decode v = (decode v).map some := by
        cases hv with
        | null => exact absurd rfl hn
        | _ => rfl
      split
      · next heq => exact absurd (List.cons.inj heq).1 hn
      · rw [toOption_map, h.value (.refl _ _) hv hstops, hnull, Option.map_map, Option.map_map]
        rfl
  form {text a rest} hread := by
    have hs := spaces_skipBlanks text
    rw [readOptional] at hread
    split at hread
    · next hnull =>
      obtain ⟨_, hword, heq⟩ := map_eq_ok_iff.mp hread
      cases heq
      rw [hnull, skipWord_eq_ok_iff.mp hword] at hs
      exact ⟨_, hs, .null⟩
    · obtain ⟨⟨b, _⟩, hread, heq⟩ := map_eq_ok_iff.mp hread
      cases heq
      obtain ⟨start, hstart, hform⟩ := h.form hread
      exact ⟨start, hs.trans hstart, hform⟩

end ManifestNotice.Json.Grammar
