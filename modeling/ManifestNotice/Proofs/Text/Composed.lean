import ManifestNotice.Text.Composed

/-!
# Composed text that ends in ASCII

Nothing is composed with an ASCII character that follows it: at the end of a
text the character stays what it is (`composed_append`).
-/

namespace ManifestNotice.Text

theorem compositions_bounds :
    compositions.all fun (second, row) =>
      0x80 ≤ second && row.all fun (_, whole) => 0x80 ≤ whole := by
  decide +kernel

theorem mem_compositions {second : Nat} {row : List (Nat × Nat)} (h : (second, row) ∈ compositions) :
    0x80 ≤ second ∧ ∀ first whole, (first, whole) ∈ row → 0x80 ≤ whole := by
  have hrow := List.all_eq_true.mp compositions_bounds _ h
  simp only [Bool.and_eq_true, decide_eq_true_eq, List.all_eq_true] at hrow
  exact ⟨hrow.1, fun first whole hm => hrow.2 (first, whole) hm⟩

theorem Hangul.index?_of_lt (h : n < first) : index? first count n = none := by
  rw [index?, if_neg]
  simp only [Bool.and_eq_true, decide_eq_true_eq]
  omega

section
variable {c : Char}

theorem partsOf?_ascii (h : c.toNat < 0x80) : partsOf? c = none := by
  have hlisted : (compositions.findSome? fun (second, row) =>
      (row.find? (·.2 == c.toNat)).map fun (first, _) => (first, second)) = none := by
    rw [List.findSome?_eq_none_iff]
    rintro ⟨second, row⟩ hm
    rw [Option.map_eq_none_iff, List.find?_eq_none]
    rintro ⟨first, whole⟩ hrow
    have hle := (mem_compositions hm).2 first whole hrow
    simp only [beq_iff_eq]
    omega
  have hsyllable : Hangul.parts? c.toNat = none := by
    rw [Hangul.parts?, Hangul.syllable?, Hangul.index?_of_lt (by rw [Hangul.firstSyllable]; omega)]
    rfl
  rw [partsOf?, hlisted, hsyllable]
  rfl

theorem join?_ascii (base : Char) (h : c.toNat < 0x80) : join? base c = none := by
  have hlisted : compositions.find? (·.1 == c.toNat) = none := by
    rw [List.find?_eq_none]
    rintro ⟨second, row⟩ hm
    have hle := (mem_compositions hm).1
    simp only [beq_iff_eq]
    omega
  have hletters : Hangul.join? base.toNat c.toNat = none := by
    rw [Hangul.join?, Hangul.index?_of_lt (n := c.toNat) (by rw [Hangul.firstVowel]; omega),
      Hangul.index?_of_lt (n := c.toNat) (by rw [Hangul.beforeTrailing]; omega)]
    split
    · next h => cases h
    · split
      · next h => cases h
      · rfl
  rw [join?, hlisted, hletters]
  rfl

theorem decomposed_ascii (depth : Nat) (h : c.toNat < 0x80) : decomposed depth c = [c] := by
  cases depth with
  | zero => rfl
  | succ depth => rw [decomposed, partsOf?_ascii h]

theorem isPlain_ascii (h : c.toNat < 0x80) : isPlain c := by
  rw [isPlain, decide_eq_true_eq, Char.lt_def, UInt32.lt_iff_toNat_lt]
  exact Nat.lt_trans h (by decide)

theorem classed_ascii (h : c.toNat < 0x80) : classed c = (0, c) := by
  have hplain := isPlain_ascii h
  rw [isPlain, decide_eq_true_eq] at hplain
  rw [classed, combiningClass, if_pos hplain]

end

/-- No mark is moved past a character of class zero. -/
theorem orderedFrom_append (run text : List Classed) (c : Char) :
    orderedFrom run (text ++ [(0, c)]) = orderedFrom run text ++ [(0, c)] := by
  induction text generalizing run with
  | nil => simp [orderedFrom]
  | cons first text ih =>
    obtain ⟨k, first⟩ := first
    rw [List.cons_append, orderedFrom, orderedFrom, ih, ih]
    split
    · simp
    · rfl

theorem composedFrom_append {c : Char} (h : ∀ base, join? base c = none) (base : Char)
    (apart text : List Classed) :
    composedFrom base apart (text ++ [(0, c)]) = composedFrom base apart text ++ [c] := by
  induction text generalizing base apart with
  | nil => simp [composedFrom, h]
  | cons first text ih =>
    obtain ⟨k, first⟩ := first
    rw [List.cons_append, composedFrom, composedFrom]
    split
    · rw [ih]
    · split
      · rw [ih, ← List.append_assoc]
      · rw [ih]

theorem composed_append {c : Char} (text : List Char) (h : c.toNat < 0x80) :
    composed (text ++ [c]) = composed text ++ [c] := by
  have hplain := isPlain_ascii h
  by_cases ht : text.all isPlain
  · have hall : (text ++ [c]).all isPlain := by simp [ht, hplain]
    rw [composed_eq_self ht, composed_eq_self hall]
  · have hall : ¬ (text ++ [c]).all isPlain := by simp [ht]
    rw [composed, composed, if_neg ht, if_neg hall, List.flatMap_append, List.map_append,
      List.flatMap_singleton, decomposed_ascii _ h, List.map_singleton, classed_ascii h,
      orderedFrom_append]
    cases orderedFrom [] ((text.flatMap (decomposed compositionDepth)).map classed) with
    | nil => rfl
    | cons first rest =>
      obtain ⟨k, first⟩ := first
      exact composedFrom_append (join?_ascii · h) first [] rest

end ManifestNotice.Text
