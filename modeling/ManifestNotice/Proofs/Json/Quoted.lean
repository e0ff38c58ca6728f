import ManifestNotice.Proofs.Json.Form

/-!
# Quoted texts, read

Reading a quoted text takes what the grammar spells and nothing else
(`read_eq_ok_iff`); skipping one takes all that has the form (`skip_eq_ok_iff`).
-/

namespace ManifestNotice.Json.Grammar

-- ---------------------------------------------------------------------------
-- Results
-- ---------------------------------------------------------------------------

section
variable {Reason α β : Type} {result : Except Reason α}

theorem map_eq_ok_iff {f : α → β} {b : β} :
    result.map f = .ok b ↔ ∃ a, result = .ok a ∧ f a = b := by
  cases result <;> simp [Except.map]

theorem bind_eq_ok_iff {next : α → Except Reason β} {b : β} :
    (result >>= next) = .ok b ↔ ∃ a, result = .ok a ∧ next a = .ok b := by
  cases result <;> simp [bind, Except.bind]

theorem toOption_map (f : α → β) (result : Except Reason α) :
    (result.map f).toOption = result.toOption.map f := by
  cases result <;> rfl

theorem toOption_bind (result : Except Reason α) (next : α → Except Reason β) :
    (result >>= next).toOption = result.toOption.bind fun a => (next a).toOption := by
  cases result <;> rfl

end

-- ---------------------------------------------------------------------------
-- Blanks
-- ---------------------------------------------------------------------------

theorem isBlank_eq : isBlank = isSpace :=
  funext fun c => congrArg (· || c == '\r') (Bool.or_right_comm (c == ' ') (c == '\n') (c == '\t'))

theorem spaces_skipBlanks (text : List Char) : Spaces text (skipBlanks text) := by
  rw [skipBlanks, isBlank_eq]
  exact skips_dropWhile isSpace text

theorem leaves_skipBlanks (text : List Char) : Leaves isSpace (skipBlanks text) := by
  rw [skipBlanks, isBlank_eq]
  exact leaves_dropWhile isSpace text

theorem skipBlanks_eq (h : Spaces text rest) (hl : Leaves isSpace rest) :
    skipBlanks text = rest :=
  (spaces_skipBlanks text).unique h (leaves_skipBlanks text) hl

theorem skipBlanks_starts (h : Spaces text (c :: rest)) (hc : starts c) :
    skipBlanks text = c :: rest :=
  skipBlanks_eq h (.of_cons (isSpace_of_starts hc) _)

-- ---------------------------------------------------------------------------
-- Escapes
-- ---------------------------------------------------------------------------

theorem hexDigit?_eq (c : Char) : Text.hexDigit? c = digit? c := by
  simp only [Text.hexDigit?, digit?, Bool.and_eq_true, decide_eq_true_eq]
  split
  · rfl
  · split
    · next hlower =>
      have hc : 'a'.toNat ≤ c.toNat := hlower.1
      simp only [Char.reduceToNat] at hc ⊢
      exact congrArg some (by omega)
    · split
      · next hupper =>
        have hc : 'A'.toNat ≤ c.toNat := hupper.1
        simp only [Char.reduceToNat] at hc ⊢
        exact congrArg some (by omega)
      · rfl

theorem unit?_eq_some_iff {a b c d : Char} : Quoted.unit? a b c d = some n ↔
    ∃ i j k l, digit? a = some i ∧ digit? b = some j ∧ digit? c = some k ∧ digit? d = some l ∧
      i * 0x1000 + j * 0x100 + k * 0x10 + l = n := by
  simp only [Quoted.unit?, hexDigit?_eq, Option.bind_eq_bind, Option.bind_eq_some_iff,
    Option.some.injEq]
  constructor
  · rintro ⟨i, hi, j, hj, k, hk, l, hl, rfl⟩
    exact ⟨i, j, k, l, hi, hj, hk, hl, by omega⟩
  · rintro ⟨i, j, k, l, hi, hj, hk, hl, rfl⟩
    exact ⟨i, hi, j, hj, k, hk, l, hl, by omega⟩

theorem unit_eq_ok_iff : Quoted.unit text = .ok (n, rest) ↔ CodeUnit n text rest := by
  constructor
  · intro h
    unfold Quoted.unit at h
    split at h
    · split at h
      · next hunit =>
        cases h
        obtain ⟨i, j, k, l, hi, hj, hk, hl, rfl⟩ := unit?_eq_some_iff.mp hunit
        exact .intro hi hj hk hl
      · cases h
    · cases h
  · rintro ⟨hi, hj, hk, hl⟩
    rw [Quoted.unit, unit?_eq_some_iff.mpr ⟨_, _, _, _, hi, hj, hk, hl, rfl⟩]

theorem secondUnit_eq_ok_iff : Quoted.secondUnit text = .ok (n, rest) ↔
    ∃ middle, text = '\\' :: 'u' :: middle ∧ CodeUnit n middle rest := by
  constructor
  · intro h
    unfold Quoted.secondUnit at h
    split at h
    · exact ⟨_, rfl, unit_eq_ok_iff.mp h⟩
    all_goals cases h
  · rintro ⟨middle, rfl, hunit⟩
    exact unit_eq_ok_iff.mpr hunit

theorem isHighSurrogate_iff : Quoted.isHighSurrogate n ↔ 0xD800 ≤ n ∧ n ≤ 0xDBFF := by
  simp [Quoted.isHighSurrogate]

theorem isLowSurrogate_iff : Quoted.isLowSurrogate n ↔ 0xDC00 ≤ n ∧ n ≤ 0xDFFF := by
  simp [Quoted.isLowSurrogate]

theorem paired_eq (high low : Nat) : Quoted.paired high low =
    Char.ofNat (0x10000 + (high - 0xD800) * 0x400 + (low - 0xDC00)) :=
  congrArg Char.ofNat (by omega)

theorem characterOf_unit (h : n < 0xD800 ∨ 0xDFFF < n) :
    Quoted.characterOf n text = .ok (Char.ofNat n, text) := by
  have hhigh := mt (isHighSurrogate_iff (n := n)).mp (by omega)
  have hlow := mt (isLowSurrogate_iff (n := n)).mp (by omega)
  rw [Quoted.characterOf, if_neg hlow, if_neg hhigh]

theorem characterOf_pair (h : CodeUnit low middle rest) (hleast : 0xD800 ≤ high)
    (hmost : high ≤ 0xDBFF) (hfrom : 0xDC00 ≤ low) (hto : low ≤ 0xDFFF) :
    Quoted.characterOf high ('\\' :: 'u' :: middle) =
      .ok (Char.ofNat (0x10000 + (high - 0xD800) * 0x400 + (low - 0xDC00)), rest) := by
  have hhigh := isHighSurrogate_iff.mpr ⟨hleast, hmost⟩
  have hlow := mt (isLowSurrogate_iff (n := high)).mp (by omega)
  rw [Quoted.characterOf, if_neg hlow, if_pos hhigh, secondUnit_eq_ok_iff.mpr ⟨middle, rfl, h⟩]
  dsimp only
  rw [if_pos (isLowSurrogate_iff.mpr ⟨hfrom, hto⟩), paired_eq]

theorem spelled_of_characterOf (hunit : CodeUnit high text after)
    (h : Quoted.characterOf high after = .ok (c, rest)) : Spelled c ('\\' :: 'u' :: text) rest := by
  unfold Quoted.characterOf at h
  split at h
  · cases h
  · next hlow =>
    rw [isLowSurrogate_iff] at hlow
    split at h
    · next hhigh =>
      obtain ⟨hleast, hmost⟩ := isHighSurrogate_iff.mp hhigh
      split at h
      · cases h
      · next low behind hsecond =>
        obtain ⟨middle, rfl, hlower⟩ := secondUnit_eq_ok_iff.mp hsecond
        split at h
        · next hpair =>
          obtain ⟨hfrom, hto⟩ := isLowSurrogate_iff.mp hpair
          obtain ⟨rfl, rfl⟩ : Quoted.paired high low = c ∧ behind = rest := by simpa using h
          rw [paired_eq]
          exact .pair hunit hlower hleast hmost hfrom hto
        · cases h
    · next hhigh =>
      rw [isHighSurrogate_iff] at hhigh
      cases h
      exact .unit hunit (by omega)

theorem character_eq_ok_iff : Quoted.character text = .ok (c, rest) ↔
    Spelled c ('\\' :: 'u' :: text) rest := by
  constructor
  · intro h
    unfold Quoted.character at h
    split at h
    · cases h
    · next hunit => exact spelled_of_characterOf (unit_eq_ok_iff.mp hunit) h
  · intro h
    cases h with
    | plain _ _ hc => exact absurd rfl hc
    | letter he => cases he
    | unit hunit hn =>
      rw [Quoted.character, unit_eq_ok_iff.mpr hunit]
      exact characterOf_unit hn
    | pair hunit hsecond hleast hmost hfrom hto =>
      rw [Quoted.character, unit_eq_ok_iff.mpr hunit]
      exact characterOf_pair hsecond hleast hmost hfrom hto

theorem letter?_eq (c : Char) : Quoted.letter? c = letters.lookup c := by
  unfold Quoted.letter?
  split <;> try rfl
  refine (List.lookup_eq_none_iff.mpr ?_).symm
  simp only [letters, List.forall_mem_cons]
  simp_all

theorem escape_letter {e : Char} (he : e ≠ 'u') : Quoted.escape (e :: text) =
    match letters.lookup e with
    | some c => .ok (c, text)
    | none => .error (.within .badEscape (e :: text)) := by
  rw [← letter?_eq]
  exact Quoted.escape.eq_3 e text he

theorem skipEscape_letter {e : Char} (he : e ≠ 'u') : Quoted.skipEscape (e :: text) =
    if (letters.lookup e).isSome then .ok text else .error (.within .badEscape (e :: text)) := by
  rw [← letter?_eq]
  exact Quoted.skipEscape.eq_3 e text he

theorem escape_eq_ok_iff : Quoted.escape text = .ok (c, rest) ↔ Spelled c ('\\' :: text) rest := by
  match text with
  | [] =>
    refine ⟨nofun, fun h => ?_⟩
    cases h
    contradiction
  | e :: text =>
    by_cases he : e = 'u'
    · rw [he]
      exact character_eq_ok_iff
    · rw [escape_letter he]
      constructor
      · intro h
        split at h
        · next hc =>
          cases h
          exact .letter hc
        · cases h
      · intro h
        cases h with
        | plain _ _ hc => exact absurd rfl hc
        | letter hc => rw [hc]
        | unit => exact absurd rfl he
        | pair => exact absurd rfl he

theorem skipEscape_eq_ok_iff : Quoted.skipEscape text = .ok rest ↔ Formed ('\\' :: text) rest := by
  match text with
  | [] =>
    refine ⟨nofun, fun h => ?_⟩
    cases h
    contradiction
  | e :: text =>
    by_cases he : e = 'u'
    · rw [he]
      constructor
      · intro h
        obtain ⟨⟨n, _⟩, hunit, rfl⟩ := map_eq_ok_iff.mp h
        exact .unit (unit_eq_ok_iff.mp hunit)
      · intro h
        cases h with
        | plain _ _ hc => exact absurd rfl hc
        | letter hc => cases hc
        | unit hunit =>
          rw [Quoted.skipEscape, unit_eq_ok_iff.mpr hunit]
          rfl
    · rw [skipEscape_letter he]
      constructor
      · intro h
        split at h
        · next hc =>
          cases h
          obtain ⟨c, hc⟩ := Option.isSome_iff_exists.mp hc
          exact .letter hc
        · cases h
      · intro h
        cases h with
        | plain _ _ hc => exact absurd rfl hc
        | letter hc => rw [hc]; rfl
        | unit => exact absurd rfl he

-- ---------------------------------------------------------------------------
-- Reading and skipping
-- ---------------------------------------------------------------------------

theorem isControl_iff : Quoted.isControl c ↔ c.toNat < 0x20 := decide_eq_true_iff

theorem read_plain (hc : 0x20 ≤ c.toNat) (hquote : c ≠ '"') (hslash : c ≠ '\\') :
    Quoted.read (c :: text) = (Quoted.read text).map fun (cs, rest) => (c :: cs, rest) := by
  have hcontrol := mt isControl_iff.mp (Nat.not_lt.mpr hc)
  rw [Quoted.read.eq_def]
  split <;> simp_all

theorem read_escape (h : Quoted.escape text = .ok (c, middle)) :
    Quoted.read ('\\' :: text) = (Quoted.read middle).map fun (cs, rest) => (c :: cs, rest) := by
  rw [Quoted.read]
  split
  · next hf => rw [h] at hf; cases hf
  · next hok => rw [h] at hok; cases hok; rfl

theorem skip_plain (hc : 0x20 ≤ c.toNat) (hquote : c ≠ '"') (hslash : c ≠ '\\') :
    Quoted.skip (c :: text) = Quoted.skip text := by
  have hcontrol := mt isControl_iff.mp (Nat.not_lt.mpr hc)
  rw [Quoted.skip.eq_def]
  split <;> simp_all

theorem skip_escape (h : Quoted.skipEscape text = .ok middle) :
    Quoted.skip ('\\' :: text) = Quoted.skip middle := by
  rw [Quoted.skip]
  split
  · next hf => rw [h] at hf; cases hf
  · next hok => rw [h] at hok; cases hok; rfl

theorem quote_of_read (h : Quoted.read text = .ok (cs, rest)) : Quote cs text rest := by
  fun_induction Quoted.read text generalizing cs with
  | case1 => cases h
  | case2 => cases h; exact .done
  | case3 => cases h
  | case4 text c middle hescape ih =>
    obtain ⟨⟨ds, _⟩, hread, heq⟩ := map_eq_ok_iff.mp h
    cases heq
    exact .next (escape_eq_ok_iff.mp hescape) (ih hread)
  | case5 => cases h
  | case6 c text hquote hslash hcontrol ih =>
    obtain ⟨⟨ds, _⟩, hread, heq⟩ := map_eq_ok_iff.mp h
    cases heq
    rw [isControl_iff, Nat.not_lt] at hcontrol
    exact .next (.plain hcontrol hquote hslash) (ih hread)

theorem Spelled.read (h : Spelled c text middle) :
    Quoted.read text = (Quoted.read middle).map fun (cs, rest) => (c :: cs, rest) := by
  cases h with
  | plain hc hquote hslash => exact read_plain hc hquote hslash
  | letter he => exact read_escape (escape_eq_ok_iff.mpr (.letter he))
  | unit hunit hn => exact read_escape (escape_eq_ok_iff.mpr (.unit hunit hn))
  | pair hunit hsecond hleast hmost hfrom hto =>
    exact read_escape (escape_eq_ok_iff.mpr (.pair hunit hsecond hleast hmost hfrom hto))

theorem Quote.read (h : Quote cs text rest) : Quoted.read text = .ok (cs, rest) := by
  induction h with
  | done => rw [Quoted.read]
  | next hs _ ih => rw [hs.read, ih]; rfl

theorem read_eq_ok_iff : Quoted.read text = .ok (cs, rest) ↔ Quote cs text rest :=
  ⟨quote_of_read, Quote.read⟩

theorem enclosed_of_skip (h : Quoted.skip text = .ok rest) : Enclosed text rest := by
  fun_induction Quoted.skip text with
  | case1 => cases h
  | case2 => cases h; exact .done
  | case3 => cases h
  | case4 text middle hescape ih => exact .next (skipEscape_eq_ok_iff.mp hescape) (ih h)
  | case5 => cases h
  | case6 c text hquote hslash hcontrol ih =>
    rw [isControl_iff, Nat.not_lt] at hcontrol
    exact .next (.plain hcontrol hquote hslash) (ih h)

theorem Formed.skip (h : Formed text middle) : Quoted.skip text = Quoted.skip middle := by
  cases h with
  | plain hc hquote hslash => exact skip_plain hc hquote hslash
  | letter he => exact skip_escape (skipEscape_eq_ok_iff.mpr (.letter he))
  | unit hunit => exact skip_escape (skipEscape_eq_ok_iff.mpr (.unit hunit))

theorem Enclosed.skip (h : Enclosed text rest) : Quoted.skip text = .ok rest := by
  induction h with
  | done => rw [Quoted.skip]
  | next hs _ ih => rw [hs.skip, ih]

theorem skip_eq_ok_iff : Quoted.skip text = .ok rest ↔ Enclosed text rest :=
  ⟨enclosed_of_skip, Enclosed.skip⟩

end ManifestNotice.Json.Grammar
