import Mathlib.Data.List.Infix

/-!
# Cutting a text at a mark

A text is cut where a mark stands in it for the first time (`cutAt?`). Parts of
the text in which the mark does not stand can be passed over one by one, if
they are joined by characters that the mark lacks (`cutAt?_append_cons`).
-/

namespace ManifestNotice.Text

/-- What is before the first place where the mark stands, and what is behind it. -/
def cutAt? (mark text : List Char) : Option (List Char × List Char) :=
  if mark <+: text then some ([], text.drop mark.length)
  else
    match text with
    | [] => none
    | c :: rest => (cutAt? mark rest).map fun (front, behind) => (c :: front, behind)

variable {mark front behind before after text : List Char} {c : Char}

theorem cutAt?_cons (h : ¬ mark <+: c :: text) :
    cutAt? mark (c :: text) =
      (cutAt? mark text).map fun (front, behind) => (c :: front, behind) := by
  rw [cutAt?, if_neg h]

-- ---------------------------------------------------------------------------
-- What a cut says
-- ---------------------------------------------------------------------------

theorem eq_append_of_cutAt? (h : cutAt? mark text = some (front, behind)) :
    text = front ++ (mark ++ behind) := by
  fun_induction cutAt? mark text generalizing front with
  | case1 text hp =>
    cases h
    exact (List.prefix_iff_eq_append.mp hp).symm
  | case2 => cases h
  | case3 c rest hp ih =>
    obtain ⟨⟨first, _⟩, hcut, hfirst⟩ := Option.map_eq_some_iff.mp h
    cases hfirst
    rw [ih hcut, List.cons_append]

/-- Nowhere earlier does the mark stand. -/
theorem length_le_of_cutAt? (h : cutAt? mark text = some (front, behind))
    (hs : text = before ++ (mark ++ after)) : front.length ≤ before.length := by
  fun_induction cutAt? mark text generalizing front before with
  | case1 =>
    cases h
    exact Nat.zero_le _
  | case2 => cases h
  | case3 c rest hp ih =>
    obtain ⟨⟨first, _⟩, hcut, hfirst⟩ := Option.map_eq_some_iff.mp h
    cases hfirst
    cases before with
    | nil => exact absurd (hs ▸ List.prefix_append mark after) hp
    | cons d before =>
      rw [List.cons_append, List.cons.injEq] at hs
      exact Nat.succ_le_succ (ih hcut hs.2)

theorem not_infix_of_cutAt? (hm : mark ≠ [])
    (h : cutAt? mark (front ++ text) = some (front, behind)) : ¬ mark <:+: front := by
  rintro ⟨before, after, rfl⟩
  have hs : before ++ mark ++ after ++ text = before ++ (mark ++ (after ++ text)) := by
    simp only [List.append_assoc]
  have hle := length_le_of_cutAt? h hs
  have hpos := List.length_pos_iff.mpr hm
  simp only [List.length_append] at hle
  omega

-- ---------------------------------------------------------------------------
-- Cutting texts put together
-- ---------------------------------------------------------------------------

/-- What comes after the mark makes no difference. -/
theorem cutAt?_append_right (h : cutAt? mark text = some (front, behind)) (rest : List Char) :
    cutAt? mark (text ++ rest) = some (front, behind ++ rest) := by
  fun_induction cutAt? mark text generalizing front with
  | case1 text hp =>
    cases h
    rw [cutAt?.eq_def, if_pos (hp.trans (List.prefix_append text rest)),
      List.drop_append_of_le_length hp.length_le]
  | case2 => cases h
  | case3 c text hp ih =>
    obtain ⟨⟨first, _⟩, hcut, hfirst⟩ := Option.map_eq_some_iff.mp h
    cases hfirst
    -- the mark is further back, so there is room for it before the rest
    have hlength : mark.length ≤ (c :: text).length := by
      rw [eq_append_of_cutAt? hcut]
      simp only [List.length_cons, List.length_append]
      omega
    have hlonger : ¬ mark <+: c :: (text ++ rest) := fun h =>
      hp (List.prefix_of_prefix_length_le h (List.prefix_append (c :: text) rest) hlength)
    rw [List.cons_append, cutAt?_cons hlonger, ih hcut]
    rfl

/-- A mark that starts in the front ends there, if it lacks the character behind
the front. -/
theorem prefix_of_append_cons (hc : c ∉ mark) (h : mark <+: front ++ c :: behind) :
    mark <+: front := by
  obtain ⟨rest, h⟩ := h
  rcases List.append_eq_append_iff.mp h with ⟨gap, hfront, -⟩ | ⟨gap, hmark, hgap⟩
  · exact ⟨gap, hfront.symm⟩
  · cases gap with
    | nil => exact ⟨[], by simpa using hmark⟩
    | cons d gap =>
      cases hgap
      exact absurd (by simp [hmark]) hc

/-- A front without the mark is passed over. -/
theorem cutAt?_append_cons (hc : c ∉ mark) (hf : ¬ mark <:+: front) (text : List Char) :
    cutAt? mark (front ++ c :: text) =
      (cutAt? mark text).map fun (before, behind) => (front ++ c :: before, behind) := by
  induction front with
  | nil =>
    refine cutAt?_cons fun hp => hf ?_
    have hnil : mark <+: [] := prefix_of_append_cons hc hp
    exact hnil.isInfix
  | cons d front ih =>
    have hrest : ¬ mark <:+: front := fun h => hf (h.trans (List.suffix_cons d front).isInfix)
    have hp : ¬ mark <+: d :: (front ++ c :: text) := by
      intro hp
      have hfront : mark <+: d :: front := prefix_of_append_cons hc hp
      exact hf hfront.isInfix
    rw [List.cons_append, cutAt?_cons hp, ih hrest]
    cases cutAt? mark text <;> rfl

/-- A text is cut in one way at the first place of a character. -/
theorem append_cons_unique (hf : c ∉ front) (hb : c ∉ before)
    (h : front ++ c :: behind = before ++ c :: after) : front = before ∧ behind = after := by
  rcases List.append_eq_append_iff.mp h with ⟨gap, rfl, hgap⟩ | ⟨gap, rfl, hgap⟩
  · cases gap with
    | nil => simpa using hgap
    | cons d gap => simp_all
  · cases gap with
    | nil => simpa [eq_comm] using hgap
    | cons d gap => simp_all

end ManifestNotice.Text
