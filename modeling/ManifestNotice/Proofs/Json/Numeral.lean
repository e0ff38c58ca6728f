import ManifestNotice.Proofs.Json.Quoted

/-!
# Numerals, read

A numeral is read where the grammar has one (`number_of_read`, `Number.read`). It
stands for a natural number if it has neither sign, fraction nor exponent and is
small enough (`value?_eq_natural_iff`).
-/

namespace ManifestNotice.Json.Grammar

variable {atEnd : Cause} {numeral : Numeral}

-- ---------------------------------------------------------------------------
-- Parts of a numeral
-- ---------------------------------------------------------------------------

theorem digits_of_readDigits (h : Numeral.readDigits atEnd text = .ok (digits, rest)) :
    Digits digits ∧ text = digits ++ rest := by
  unfold Numeral.readDigits at h
  split at h
  · cases h
  · next c after =>
    split at h
    · next hc =>
      cases h
      have hrun : ∀ d ∈ after.takeWhile Char.isDigit, d.isDigit := fun d hd =>
        List.mem_takeWhile_imp hd
      refine ⟨⟨List.cons_ne_nil _ _, List.forall_mem_cons.mpr ⟨hc, hrun⟩⟩, ?_⟩
      rw [List.cons_append, List.takeWhile_append_dropWhile]
    · cases h

theorem Digits.read (h : Digits digits) (hl : Leaves Char.isDigit rest) :
    Numeral.readDigits atEnd (digits ++ rest) = .ok (digits, rest) := by
  obtain ⟨c, run, rfl, hc⟩ := h.head
  have hrun : ∀ d ∈ run, d.isDigit := fun d hd => h.2 d (List.mem_cons_of_mem _ hd)
  rw [List.cons_append, Numeral.readDigits, if_pos hc, takeWhile_append_eq hrun hl,
    dropWhile_eq_iff.mpr ⟨⟨run, rfl, hrun⟩, hl⟩]

theorem whole_of_readWhole (h : Numeral.readWhole atEnd text = .ok (whole, rest)) :
    Whole whole ∧ text = whole ++ rest := by
  unfold Numeral.readWhole at h
  split at h
  · split at h
    · cases h
    · cases h
      exact ⟨.zero, rfl⟩
  · next hzero =>
    obtain ⟨hd, rfl⟩ := digits_of_readDigits h
    obtain ⟨c, run, rfl, hc⟩ := hd.head
    refine ⟨?_, rfl⟩
    by_cases h0 : c = '0'
    · subst h0
      cases run with
      | nil => exact .zero
      | cons d run => exact absurd rfl (hzero d _)
    · exact .digits hc h0 fun d hd' => hd.2 d (List.mem_cons_of_mem _ hd')

theorem Whole.read (h : Whole whole) (hl : Leaves Char.isDigit rest) :
    Numeral.readWhole atEnd (whole ++ rest) = .ok (whole, rest) := by
  cases h with
  | zero =>
    cases rest with
    | nil => rfl
    | cons c rest =>
      have hc := hl c rfl
      rw [List.singleton_append, Numeral.readWhole, if_neg (Bool.eq_false_iff.mp hc)]
  | digits hc h0 hr =>
    refine (Numeral.readWhole.eq_2 atEnd _ fun d after heq => h0 (List.cons.inj heq).1).trans ?_
    exact (Whole.digits hc h0 hr).isDigits.read hl

theorem fraction_of_readFraction (h : Numeral.readFraction atEnd text = .ok (fraction, rest)) :
    ∃ part, Fraction fraction part ∧ text = part ++ rest := by
  unfold Numeral.readFraction at h
  split at h
  · obtain ⟨⟨digits, _⟩, hdigits, heq⟩ := map_eq_ok_iff.mp h
    cases heq
    obtain ⟨hd, rfl⟩ := digits_of_readDigits hdigits
    exact ⟨_, .some hd, rfl⟩
  · cases h
    exact ⟨[], .none, rfl⟩

theorem Fraction.read (h : Fraction fraction part) (hl : Leaves Char.isDigit rest)
    (hp : ∀ other, rest ≠ '.' :: other) :
    Numeral.readFraction atEnd (part ++ rest) = .ok (fraction, rest) := by
  cases h with
  | none => exact Numeral.readFraction.eq_2 atEnd rest hp
  | some hd =>
    rw [List.cons_append, Numeral.readFraction, hd.read hl]
    rfl

theorem sign_of_readSign (h : Numeral.readSign text = (negative, rest)) :
    ∃ sign, Sign negative sign ∧ text = sign ++ rest := by
  unfold Numeral.readSign at h
  split at h <;> cases h
  · exact ⟨_, .minus, rfl⟩
  · exact ⟨_, .plus, rfl⟩
  · exact ⟨_, .none, rfl⟩

theorem Sign.read (h : Sign negative sign) (hd : Digits digits) :
    Numeral.readSign (sign ++ (digits ++ rest)) = (negative, digits ++ rest) := by
  cases h with
  | none =>
    obtain ⟨c, run, rfl, hc⟩ := hd.head
    have hminus : c ≠ '-' := by rintro rfl; cases hc
    have hplus : c ≠ '+' := by rintro rfl; cases hc
    exact Numeral.readSign.eq_3 _ (fun after heq => hminus (List.cons.inj heq).1)
      fun after heq => hplus (List.cons.inj heq).1
  | plus => rfl
  | minus => rfl

theorem exponent_of_readExponent (h : Numeral.readExponent atEnd text = .ok (exponent, rest)) :
    ∃ part, Exponent exponent part ∧ text = part ++ rest := by
  unfold Numeral.readExponent at h
  split at h
  · next c after =>
    split at h
    · next he =>
      rw [Bool.or_eq_true, beq_iff_eq, beq_iff_eq] at he
      rcases hread : Numeral.readSign after with ⟨negative, behind⟩
      rw [hread] at h
      obtain ⟨⟨digits, _⟩, hdigits, heq⟩ := map_eq_ok_iff.mp h
      cases heq
      obtain ⟨sign, hsign, rfl⟩ := sign_of_readSign hread
      obtain ⟨hd, rfl⟩ := digits_of_readDigits hdigits
      refine ⟨_, .some he hsign hd, ?_⟩
      rw [List.cons_append, List.append_assoc]
    · cases h
      exact ⟨[], .none, rfl⟩
  · cases h
    exact ⟨[], .none, rfl⟩

theorem Exponent.read (h : Exponent exponent part) (hs : Stops rest) :
    Numeral.readExponent atEnd (part ++ rest) = .ok (exponent, rest) := by
  cases h with
  | none =>
    cases rest with
    | nil => rfl
    | cons c rest =>
      obtain ⟨-, -, he, hE⟩ := continues_eq_false.mp (hs c rfl)
      rw [List.nil_append, Numeral.readExponent, if_neg (by simp [he, hE])]
  | some he hsign hd =>
    rw [List.cons_append, List.append_assoc, Numeral.readExponent, if_pos (by simpa using he),
      hsign.read hd]
    dsimp only
    rw [hd.read hs.digits]
    rfl

-- ---------------------------------------------------------------------------
-- Whole numerals
-- ---------------------------------------------------------------------------

theorem number_of_read (h : Numeral.read atEnd negative text = .ok (numeral, rest)) :
    numeral.negative = negative ∧ Number numeral (minus negative ++ text) rest := by
  unfold Numeral.read at h
  obtain ⟨⟨whole, _⟩, hwhole, h⟩ := bind_eq_ok_iff.mp h
  obtain ⟨⟨fraction, _⟩, hfraction, h⟩ := bind_eq_ok_iff.mp h
  obtain ⟨⟨exponent, _⟩, hexponent, h⟩ := bind_eq_ok_iff.mp h
  cases h
  obtain ⟨hw, rfl⟩ := whole_of_readWhole hwhole
  obtain ⟨part, hf, rfl⟩ := fraction_of_readFraction hfraction
  obtain ⟨last, he, rfl⟩ := exponent_of_readExponent hexponent
  exact ⟨rfl, hw, part, last, hf, he, rfl⟩

theorem Number.read (h : Number numeral (minus numeral.negative ++ text) rest) (hs : Stops rest) :
    Numeral.read atEnd numeral.negative text = .ok (numeral, rest) := by
  obtain ⟨hw, part, last, hf, he, heq⟩ := h
  obtain rfl := List.append_cancel_left heq
  have hd := he.leaves_digit hs
  rw [Numeral.read, hw.read (hf.leaves_digit hd)]
  dsimp only [bind, Except.bind]
  rw [hf.read hd fun _ => he.head_ne hs]
  dsimp only
  rw [he.read hs]
  rfl

/-- The sign does not bear on the rest of a numeral. -/
theorem Number.signed (h : Number numeral (minus numeral.negative ++ text) rest) (negative : Bool) :
    Number { numeral with negative } (minus negative ++ text) rest := by
  obtain ⟨hw, part, last, hf, he, heq⟩ := h
  obtain rfl := List.append_cancel_left heq
  exact ⟨hw, part, last, hf, he, rfl⟩

-- ---------------------------------------------------------------------------
-- Natural numbers
-- ---------------------------------------------------------------------------

theorem le_foldl_digits (n : Nat) (digits : List Char) :
    n ≤ digits.foldl (fun n c => 10 * n + Numeral.digitValue c) n := by
  induction digits generalizing n with
  | nil => exact Nat.le_refl n
  | cons c digits ih =>
    rw [List.foldl_cons]
    exact Nat.le_trans (by omega) (ih _)

/-- Digits are appended to the last where the number fits. -/
theorem accumulate_eq_nil_iff (hn : n < Numeral.wordLimit) :
    Numeral.accumulate n digits = (m, []) ↔
      digits.foldl (fun n c => 10 * n + Numeral.digitValue c) n = m ∧ m < Numeral.wordLimit := by
  induction digits generalizing n with
  | nil =>
    simp only [Numeral.accumulate, List.foldl_nil, Prod.mk.injEq, and_true]
    exact ⟨fun h => ⟨h, h ▸ hn⟩, And.left⟩
  | cons c digits ih =>
    rw [Numeral.accumulate, List.foldl_cons]
    split
    · next hnext => exact ih hnext
    · next hnext =>
      have hle := le_foldl_digits (10 * n + Numeral.digitValue c) digits
      exact ⟨nofun, fun ⟨hm, hlt⟩ => by omega⟩

theorem floating?_ne_natural {n : Nat} {e : Int} {m : Nat} :
    Numeral.floating? negative n e ≠ some (.natural m) := by
  intro h
  simp only [Numeral.floating?, Option.bind_eq_bind, Option.bind_eq_some_iff] at h
  obtain ⟨_, -, _, -, h⟩ := h
  cases h

theorem value?_eq_natural_iff : numeral.value? = some (.natural m) ↔
    numeral.negative = false ∧ numeral.fraction = none ∧ numeral.exponent = none ∧
      Numeral.natural numeral.whole = m ∧ m < Numeral.wordLimit := by
  have hzero : 0 < Numeral.wordLimit := by decide
  have hall (k : Nat) : Numeral.accumulate 0 numeral.whole = (k, []) ↔
      Numeral.natural numeral.whole = k ∧ k < Numeral.wordLimit := accumulate_eq_nil_iff hzero
  unfold Numeral.value?
  rcases hsplit : Numeral.accumulate 0 numeral.whole with ⟨k, unused⟩
  rw [hsplit] at hall
  dsimp only
  split
  · next hplain =>
    simp only [Bool.and_eq_true, List.isEmpty_iff, Option.isNone_iff_eq_none] at hplain
    obtain ⟨⟨rfl, hfraction⟩, hexponent⟩ := hplain
    have hk := (hall k).mp rfl
    split
    · next hpositive =>
      rw [Bool.not_eq_true'] at hpositive
      simp only [Option.some.injEq, Number.natural.injEq, hpositive, hfraction, hexponent, true_and]
      rw [← hall m]
      exact ⟨fun h => h ▸ rfl, fun h => (Prod.mk.inj h).1⟩
    · next hnegative =>
      rw [Bool.not_eq_true', Bool.not_eq_false] at hnegative
      refine ⟨fun h => ?_, fun ⟨h, _⟩ => absurd (hnegative.symm.trans h) (by decide)⟩
      split at h
      · cases h
      · exact absurd h floating?_ne_natural
  · next hplain =>
    constructor
    · intro h
      split at h
      · exact absurd h floating?_ne_natural
      · split at h
        · split at h <;> cases h
        · exact absurd h floating?_ne_natural
    · rintro ⟨-, hfraction, hexponent, hm⟩
      cases (hall m).mpr hm
      simp [hfraction, hexponent] at hplain

end ManifestNotice.Json.Grammar
