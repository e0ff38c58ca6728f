import ManifestNotice.Proofs.Json.Typed

/-!
# What reading keeps

What every field of a record keeps holds of all that the record is read into
(`ofText_keeps`), however it is written. A natural number that is read fits into
64 bits (`readNatural_lt`).
-/

namespace ManifestNotice.Json.Grammar

-- ---------------------------------------------------------------------------
-- Numbers
-- ---------------------------------------------------------------------------

theorem check_lt (h : (Numeral.readNumber negative text).bind readNatural.check = .ok (m, rest)) :
    m < Numeral.wordLimit := by
  obtain ⟨n, -, hvalue⟩ := number_of_readNumber h
  obtain ⟨-, -, -, -, hm⟩ := value?_eq_natural_iff.mp hvalue
  exact hm

theorem readNatural_lt (h : readNatural text = .ok (m, rest)) : m < Numeral.wordLimit := by
  unfold readNatural at h
  split at h
  · exact check_lt h
  · split at h
    · exact check_lt h
    · cases h
  · cases h

theorem readOptional_some {reader : Reader α} (h : readOptional reader text = .ok (some a, rest)) :
    ∃ front, reader front = .ok (a, rest) := by
  unfold readOptional at h
  split at h
  · obtain ⟨_, -, heq⟩ := map_eq_ok_iff.mp h
    cases heq
  · obtain ⟨_, hread, heq⟩ := map_eq_ok_iff.mp h
    cases heq
    exact ⟨_, hread⟩

-- ---------------------------------------------------------------------------
-- Records
-- ---------------------------------------------------------------------------

section
variable {σ : Type} {p : σ → Prop} {record : Record σ} {state final : σ}

/-- A property that lasts while the field is read. -/
def Keeps (p : σ → Prop) (field : Field σ) : Prop :=
  ∀ state text final rest, p state → field.read state text = .ok (final, rest) → p final

theorem member_keeps (hfields : ∀ field ∈ record.fields, Keeps p field) (hstate : p state)
    (h : record.member state key text = .ok (final, rest)) : p final := by
  unfold Record.member at h
  split at h
  · obtain ⟨_, -, heq⟩ := bind_eq_ok_iff.mp h
    cases heq
    exact hstate
  · next field hfield =>
    split at h
    · cases h
    · obtain ⟨_, -, hread⟩ := bind_eq_ok_iff.mp h
      exact hfields field (List.mem_of_find?_eq_some hfield) _ _ _ _ hstate hread

theorem members_keeps (hfields : ∀ field ∈ record.fields, Keeps p field) (hstate : p state)
    (h : record.members fuel first state text = .ok (final, rest)) : p final := by
  induction fuel generalizing first state text with
  | zero => cases h
  | succ fuel ih =>
    unfold Record.members at h
    obtain ⟨⟨key?, behind⟩, -, h⟩ := bind_eq_ok_iff.mp h
    cases key? with
    | none =>
      dsimp only at h
      split at h
      · cases h
      · cases h
        exact hstate
    | some key =>
      obtain ⟨⟨next, _⟩, hmember, hrest⟩ := bind_eq_ok_iff.mp h
      exact ih (member_keeps hfields hstate hmember) hrest

theorem items_keeps {fields : List (Field σ)} (hfields : ∀ field ∈ fields, Keeps p field)
    (hstate : p state) (h : record.items index fields state text = .ok (final, rest)) :
    p final := by
  induction fields generalizing index state text with
  | nil =>
    obtain ⟨_, -, heq⟩ := map_eq_ok_iff.mp h
    cases heq
    exact hstate
  | cons field fields ih =>
    unfold Record.items at h
    obtain ⟨item?, -, h⟩ := bind_eq_ok_iff.mp h
    cases item? with
    | none =>
      dsimp only at h
      split at h
      · cases h
      · cases h
        exact hstate
    | some item =>
      obtain ⟨⟨next, _⟩, hread, hrest⟩ := bind_eq_ok_iff.mp h
      exact ih (fun other hother => hfields other (.tail _ hother))
        (hfields field (.head _) _ _ _ _ hstate hread) hrest

theorem ofText_keeps (hfields : ∀ field ∈ record.fields, Keeps p field) (hstart : p record.start)
    (h : record.ofText text = .ok final) : p final := by
  unfold Record.ofText at h
  obtain ⟨⟨state, rest⟩, hread, h⟩ := bind_eq_ok_iff.mp h
  have hstate : p state := by
    unfold Record.read at hread
    split at hread
    · exact items_keeps hfields hstart hread
    · exact members_keeps hfields hstart hread
    · cases hread
  dsimp only at h
  split at h
  · cases h
    exact hstate
  · cases h

end

end ManifestNotice.Json.Grammar
