import ManifestNotice.Proofs.Json.Grammar

/-!
# Written JSON

What is written is read back by the grammar: a quoted text, whatever its
characters are (`reads_quoted`), and an object whose values are
(`written_object`).
-/

namespace ManifestNotice.Json.Grammar

theorem codeUnit_twoDigits (h : n < 0x20) (rest : List Char) :
    CodeUnit n ('0' :: '0' :: (Quoted.twoDigits n ++ rest)) rest := by
  have hdigits : ∀ m < 0x20, digit? (Nat.digitChar (m / 16)) = some (m / 16) ∧
      digit? (Nat.digitChar (m % 16)) = some (m % 16) := by decide
  obtain ⟨hhigh, hlow⟩ := hdigits n h
  have hzero : digit? '0' = some 0 := by decide
  have hunit : CodeUnit _ _ rest := .intro hzero hzero hhigh hlow
  rwa [show 0 * 0x1000 + 0 * 0x100 + n / 16 * 0x10 + n % 16 = n by omega] at hunit

theorem spelled_writeChar (c : Char) (rest : List Char) :
    Spelled c (Quoted.writeChar c ++ rest) rest := by
  unfold Quoted.writeChar
  split
  · exact .letter rfl
  · exact .letter rfl
  · exact .letter rfl
  · exact .letter rfl
  · exact .letter rfl
  · exact .letter rfl
  · exact .letter rfl
  · next hquote hbackslash _ _ _ _ _ =>
    split
    · next hlow =>
      have hunit := Spelled.unit (codeUnit_twoDigits hlow rest) (.inl (by omega))
      rwa [Char.ofNat_toNat] at hunit
    · next hhigh => exact .plain (Nat.not_lt.mp hhigh) hquote hbackslash

theorem quote_write (text rest : List Char) :
    Quote text (text.flatMap Quoted.writeChar ++ '"' :: rest) rest := by
  induction text with
  | nil => exact .done
  | cons c text ih =>
    rw [List.flatMap_cons, List.append_assoc]
    exact .next (spelled_writeChar c _) ih

theorem write_append (text rest : List Char) :
    Quoted.write text ++ rest = '"' :: (text.flatMap Quoted.writeChar ++ '"' :: rest) := by
  simp [Quoted.write]

theorem reads_quoted (text rest : List Char) :
    Reads (.value (.string text)) (Quoted.write text ++ rest) rest := by
  rw [write_append]
  exact .string (quote_write text rest)

/-- The value is read where it was written. -/
def Written (value : Json) : Prop := ∀ rest, Reads (.value value) (value.write ++ rest) rest

theorem written_string (text : List Char) : Written (.string text) := by
  intro rest
  rw [write]
  exact reads_quoted text rest

theorem reads_member (key : List Char) (h : Written value) (rest : List Char) :
    Reads (.entry (.member key value)) (Quoted.write key ++ ':' :: (value.write ++ rest)) rest := by
  have hkey := quote_write key (':' :: (value.write ++ rest))
  refine .member ?_ hkey (.refl _ _) (.refl _ _) (h rest)
  rw [write_append]
  exact .refl _ _

theorem reads_members (h : ∀ m ∈ members, Written m.2) (rest : List Char) :
    Reads (.entries (members.map fun m => .member m.1 m.2)) (writeMembers members ++ rest)
      ('\x7d' :: rest) := by
  induction members with
  | nil =>
    rw [writeMembers]
    exact .none (.refl _ _)
  | cons m members ih =>
    obtain ⟨key, value⟩ := m
    have hm := reads_member key (h _ List.mem_cons_self)
    cases members with
    | nil =>
      rw [writeMembers]
      have := Reads.last (hm ('\x7d' :: rest)) (.refl _ _)
      simpa using this
    | cons next members =>
      rw [writeMembers]
      have hrest := ih fun m hm => h m (List.mem_cons_of_mem _ hm)
      have := Reads.more (hm (',' :: (writeMembers (next :: members) ++ rest))) (.refl _ _) hrest
      simpa using this

theorem written_object (h : ∀ m ∈ members, Written m.2) : Written (.object members) := by
  intro rest
  rw [write]
  exact .object (reads_members h rest)

theorem Written.isText (h : Written value) : IsText value value.write := by
  have hr := h []
  rw [List.append_nil] at hr
  exact ⟨_, _, .refl _ _, hr, .refl _ _⟩

/-- What is written stands for its value and no other. -/
theorem Written.isText_iff (h : Written value) : IsText other value.write ↔ other = value :=
  ⟨fun ho => ho.unique h.isText, fun ho => ho ▸ h.isText⟩

end ManifestNotice.Json.Grammar
