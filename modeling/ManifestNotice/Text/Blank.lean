/-!
# Blank characters

The Unicode property `White_Space`, and text without the blanks at its two
ends.
-/

namespace ManifestNotice.Text

/-- The ranges of code points with the property `White_Space`. -/
def blanks : List (Nat × Nat) :=
  [(0x09, 0x0D), (0x20, 0x20), (0x85, 0x85), (0xA0, 0xA0), (0x1680, 0x1680), (0x2000, 0x200A),
   (0x2028, 0x2029), (0x202F, 0x202F), (0x205F, 0x205F), (0x3000, 0x3000)]

def within (ranges : List (Nat × Nat)) (c : Char) : Bool :=
  ranges.any fun r => r.1 ≤ c.toNat && c.toNat ≤ r.2

def isBlank (c : Char) : Bool := within blanks c

/-- The text without its longest ending made of characters in the class. -/
def dropEnd (p : Char → Bool) : List Char → List Char
  | [] => []
  | c :: rest =>
    match dropEnd p rest with
    | [] => if p c then [] else [c]
    | kept => c :: kept

/-- Nothing but characters of the class is lost. -/
theorem exists_dropEnd_append (p : Char → Bool) (s : List Char) :
    ∃ t, s = dropEnd p s ++ t ∧ ∀ c ∈ t, p c := by
  induction s with
  | nil => exact ⟨[], by simp [dropEnd]⟩
  | cons c rest ih =>
    obtain ⟨t, ht, hp⟩ := ih
    cases hd : dropEnd p rest with
    | nil =>
      rw [hd, List.nil_append] at ht
      subst ht
      by_cases hc : p c
      · exact ⟨c :: rest, by simp [dropEnd, hd, hc], by simpa [hc] using hp⟩
      · exact ⟨rest, by simp [dropEnd, hd, hc], hp⟩
    | cons k ks =>
      rw [hd] at ht
      exact ⟨t, by rw [dropEnd, hd]; exact congrArg (c :: ·) ht, hp⟩

/-- What is kept does not end in the class. -/
theorem not_getLast_dropEnd {p : Char → Bool} {s : List Char} {c : Char}
    (h : (dropEnd p s).getLast? = some c) : p c = false := by
  induction s with
  | nil => simp [dropEnd] at h
  | cons a rest ih =>
    rw [dropEnd] at h
    split at h
    · split at h
      · simp at h
      · next ha => simp_all
    · next kept hk =>
      refine ih ?_
      cases hd : dropEnd p rest with
      | nil => exact absurd hd hk
      | cons k ks => rw [hd] at h; simpa using h

/-- Whatever ends in nothing of the class is kept in front of an ending that is
made of it. -/
theorem dropEnd_append {p : Char → Bool} {text ends : List Char} (he : ∀ c ∈ ends, p c)
    (ht : ∀ c ∈ text.getLast?, p c = false) : dropEnd p (text ++ ends) = text := by
  induction text with
  | nil =>
    rw [List.nil_append]
    induction ends with
    | nil => rfl
    | cons c ends ih =>
      obtain ⟨hc, hends⟩ := List.forall_mem_cons.mp he
      rw [dropEnd, ih hends]
      exact if_pos hc
  | cons c text ih =>
    rw [List.cons_append, dropEnd]
    cases text with
    | nil =>
      rw [ih nofun]
      exact if_neg (Bool.eq_false_iff.mp (ht c rfl))
    | cons next text => rw [ih (by simpa using ht)]

def trim (s : String) : String := String.ofList (dropEnd isBlank (s.toList.dropWhile isBlank))

end ManifestNotice.Text
