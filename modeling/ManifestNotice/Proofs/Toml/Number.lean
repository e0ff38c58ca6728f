import ManifestNotice.Proofs.Toml.Quoted

/-!
# Numbers and dates, read

One text may begin like a date, a float and an integer at once. The readers of
them are tried in an order, and where what follows ends a value, just the one
that takes everything up to there succeeds: soundness is `simple_of_number?`, the
other way goes kind by kind (`Moment.number`, `Float.number`,
`SpecialFloat.number`, `Integer.number`).
-/

namespace ManifestNotice.Toml.Grammar

open Json.Grammar (Skips Leaves skips_dropWhile skips_cons dropWhile_eq_iff)

variable {text rest middle ds : List Char} {c : Char} {p : Char → Bool}

-- ---------------------------------------------------------------------------
-- What follows
-- ---------------------------------------------------------------------------

/-- What may follow a value, space aside. -/
def follows (c : Char) : Bool := ['#', '\n', '\r', ',', ']', '\x7d'].contains c

/-- The text ends a value that stands before it. -/
def Ends (text : Text) : Prop := ∀ c ∈ (skipSpace text).head?, follows c

theorem Ends.head (h : Ends text) (hc : c ∈ text.head?) : isSpace c ∨ follows c := by
  obtain ⟨text, rfl⟩ := List.head?_eq_some_iff.mp (Option.mem_def.mp hc)
  cases hs : isSpace c with
  | true => exact .inl rfl
  | false =>
    refine .inr (h c ?_)
    rw [skipSpace, List.dropWhile_cons_of_neg (by simp [hs])]
    rfl

theorem Ends.head_ne (h : Ends rest) (hc : isSpace c = false) (hf : follows c = false) :
    rest.head? ≠ some c := by
  intro hhead
  rcases h.head hhead with hs | hfollows
  · rw [hc] at hs
    cases hs
  · rw [hf] at hfollows
    cases hfollows

theorem Ends.leaves (h : Ends text)
    (hp : [' ', '\t', '#', '\n', '\r', ',', ']', '\x7d'].all (!p ·)) : Leaves p text := by
  intro c hc
  have hmarks := List.all_eq_true.mp hp c
  rw [Bool.not_eq_true'] at hmarks
  apply hmarks
  rcases h.head hc with hs | hf
  · rcases isSpace_iff.mp hs with rfl | rfl <;> decide
  · simp only [follows, List.contains_eq_mem, decide_eq_true_eq] at hf
    exact List.mem_cons_of_mem _ (List.mem_cons_of_mem _ hf)

-- ---------------------------------------------------------------------------
-- Digits
-- ---------------------------------------------------------------------------

def orUnderscore (p : Char → Bool) (c : Char) : Bool := p c || c == '_'

theorem digits_of_moreDigits (p : Char → Bool) (hc : p c) (text : Text) :
    Digits p (c :: (moreDigits p text).1) (c :: text) (moreDigits p text).2 := by
  fun_induction moreDigits p text generalizing c with
  | case1 => exact .one hc
  | case2 d text hd ds rest heq ih =>
    rw [heq] at ih
    exact .apart hc (ih hd)
  | case3 => exact .one hc
  | case4 d text _ hd ds rest heq ih =>
    rw [heq] at ih
    exact .more hc (ih hd)
  | case5 => exact .one hc

theorem digits_of_read (h : digits? p text = some (ds, rest)) : Digits p ds text rest := by
  unfold digits? at h
  split at h
  · split at h
    · next hc =>
      cases h
      exact digits_of_moreDigits p hc _
    · cases h
  · cases h

theorem moreDigits_stop (hrest : Leaves (orUnderscore p) rest) :
    moreDigits p rest = ([], rest) := by
  cases rest with
  | nil => rfl
  | cons c rest =>
    have hc := hrest c rfl
    simp only [orUnderscore, Bool.or_eq_false_iff, beq_eq_false_iff_ne] at hc
    rw [moreDigits]
    · simp [hc.1]
    · exact fun _ _ h => absurd h hc.2

theorem Digits.read_more (h : Digits p ds text rest) (hp : p '_' = false)
    (hrest : Leaves (orUnderscore p) rest) : ∃ c ds' text', ds = c :: ds' ∧ text = c :: text' ∧
      p c ∧ moreDigits p text' = (ds', rest) := by
  induction h with
  | one hc => exact ⟨_, _, _, rfl, rfl, hc, moreDigits_stop hrest⟩
  | more hc _ ih =>
    obtain ⟨d, ds, text, rfl, rfl, hd, hmore⟩ := ih hrest
    refine ⟨_, _, _, rfl, rfl, hc, ?_⟩
    rw [moreDigits]
    · simp [hd, hmore]
    · rintro _ _ rfl
      rw [hp] at hd
      cases hd
  | apart hc _ ih =>
    obtain ⟨d, ds, text, rfl, rfl, hd, hmore⟩ := ih hrest
    refine ⟨_, _, _, rfl, rfl, hc, ?_⟩
    rw [moreDigits]
    simp [hd, hmore]

theorem Digits.read (h : Digits p ds text rest) (hp : p '_' = false)
    (hrest : Leaves (orUnderscore p) rest) : digits? p text = some (ds, rest) := by
  obtain ⟨c, ds, text, rfl, rfl, hc, hmore⟩ := h.read_more hp hrest
  simp [digits?, hc, hmore]

theorem Digits.head (h : Digits p ds text rest) : ∃ c ds' text', ds = c :: ds' ∧ text = c :: text' ∧
    p c := by
  cases h with
  | one hc => exact ⟨_, _, _, rfl, rfl, hc⟩
  | more hc => exact ⟨_, _, _, rfl, rfl, hc⟩
  | apart hc => exact ⟨_, _, _, rfl, rfl, hc⟩

theorem Digits.skips (h : Digits p ds text rest) : Skips (orUnderscore p) text rest := by
  induction h with
  | one hc => exact skips_cons (by simp [orUnderscore, hc]) (Skips.refl _ _)
  | more hc _ ih => exact skips_cons (by simp [orUnderscore, hc]) ih
  | apart hc _ ih =>
    exact skips_cons (by simp [orUnderscore, hc]) (skips_cons (by simp [orUnderscore]) ih)

-- ---------------------------------------------------------------------------
-- Signs and decimal digits
-- ---------------------------------------------------------------------------

theorem sign_sound (text : Text) : Sign (sign text).1 text (sign text).2 := by
  unfold sign
  split
  · exact .plus
  · exact .minus
  · exact .none

theorem Sign.read {negative : Bool} (h : Sign negative text rest) (hplus : rest.head? ≠ some '+')
    (hminus : rest.head? ≠ some '-') : sign text = (negative, rest) := by
  cases h with
  | plus => rfl
  | minus => rfl
  | none =>
    unfold sign
    split
    · exact absurd rfl hplus
    · exact absurd rfl hminus
    · rfl

theorem decimal_of_read {negative : Bool} (h : decimal? text = some (negative, ds, rest)) :
    Decimal negative ds text rest := by
  have hsign := sign_sound text
  unfold decimal? at h
  generalize sign text = signed at h hsign
  obtain ⟨minus, middle⟩ := signed
  dsimp only at h hsign
  split at h
  · cases h
    exact .zero hsign
  · next hzero =>
    obtain ⟨⟨ds, rest⟩, hds, h⟩ := Option.map_eq_some_iff.mp h
    cases h
    have hdigits := digits_of_read hds
    refine .digits hsign hdigits ?_
    obtain ⟨c, ds, after, rfl, hafter, -⟩ := hdigits.head
    intro hc
    rw [List.head?_cons, Option.some.injEq] at hc
    subst hc
    exact hzero _ hafter

theorem Decimal.read {negative : Bool} (h : Decimal negative ds text rest)
    (hrest : Leaves (orUnderscore Char.isDigit) rest) :
    decimal? text = some (negative, ds, rest) := by
  cases h with
  | zero hs => simp [decimal?, hs.read (by simp) (by simp)]
  | digits hs hds hzero =>
    have hread := hds.read rfl hrest
    obtain ⟨c, ds, after, rfl, rfl, hc⟩ := hds.head
    have hsign := hs.read (by rintro ⟨⟩; cases hc) (by rintro ⟨⟩; cases hc)
    unfold decimal?
    rw [hsign]
    dsimp only
    split
    · next heq => exact absurd (congrArg List.head? heq) hzero
    · rw [hread]
      rfl

/-- Decimal digits go on neither where a value ends nor at any mark of a number. -/
theorem Ends.leaves_digits (h : Ends rest) : Leaves (orUnderscore Char.isDigit) rest :=
  h.leaves (by decide)

-- ---------------------------------------------------------------------------
-- Integers
-- ---------------------------------------------------------------------------

theorem ranged?_eq_some_iff {n : Int} {v : Value} {after : Text} :
    ranged? n text = some (v, after) ↔ inRange n ∧ v = .integer n ∧ after = text := by
  unfold ranged?
  constructor
  · intro h
    split at h
    · next hn =>
      cases h
      exact ⟨hn, rfl, rfl⟩
    · cases h
  · rintro ⟨hn, rfl, rfl⟩
    exact if_pos hn

theorem integer_of_read {v : Value} (h : integer? text = some (v, rest)) :
    ∃ n, v = .integer n ∧ Integer n text rest ∧ inRange n := by
  unfold integer? at h
  split at h
  · obtain ⟨⟨ds, after⟩, hds, h⟩ := Option.bind_eq_some_iff.mp h
    obtain ⟨hrange, rfl, rfl⟩ := ranged?_eq_some_iff.mp h
    exact ⟨_, rfl, .hexadecimal (digits_of_read hds), hrange⟩
  · obtain ⟨⟨ds, after⟩, hds, h⟩ := Option.bind_eq_some_iff.mp h
    obtain ⟨hrange, rfl, rfl⟩ := ranged?_eq_some_iff.mp h
    exact ⟨_, rfl, .octal (digits_of_read hds), hrange⟩
  · obtain ⟨⟨ds, after⟩, hds, h⟩ := Option.bind_eq_some_iff.mp h
    obtain ⟨hrange, rfl, rfl⟩ := ranged?_eq_some_iff.mp h
    exact ⟨_, rfl, .binary (digits_of_read hds), hrange⟩
  · obtain ⟨⟨negative, ds, after⟩, hds, h⟩ := Option.bind_eq_some_iff.mp h
    obtain ⟨hrange, rfl, rfl⟩ := ranged?_eq_some_iff.mp h
    exact ⟨_, rfl, .decimal (decimal_of_read hds), hrange⟩

theorem based?_read {base : Nat} (h : Digits p ds text rest) (hp : p '_' = false)
    (hrest : Leaves (orUnderscore p) rest) (hrange : inRange (valueOf base ds)) :
    based? base p text = some (.integer (valueOf base ds), rest) := by
  have hread : based? base p text = ranged? (valueOf base ds) rest := by
    rw [based?, h.read hp hrest, Option.bind_eq_bind, Option.bind_some]
  rw [hread]
  exact ranged?_eq_some_iff.mpr ⟨hrange, rfl, rfl⟩

theorem Integer.read {n : Int} (h : Integer n text rest) (hrest : Ends rest) (hrange : inRange n) :
    integer? text = some (.integer n, rest) := by
  cases h with
  | hexadecimal h => exact based?_read h (by decide) (hrest.leaves (by decide)) hrange
  | octal h => exact based?_read h (by decide) (hrest.leaves (by decide)) hrange
  | binary h => exact based?_read h (by decide) (hrest.leaves (by decide)) hrange
  | @decimal negative ds _ _ h =>
    have hread := h.read hrest.leaves_digits
    -- after the zero that a base begins with, a decimal number is over and no value ends
    have hbase {mark : Char} {after : Text} (hmark : isSpace mark = false ∧ follows mark = false) :
        decimal? ('0' :: mark :: after) ≠ some (negative, ds, rest) := by
      intro htext
      cases htext
      rcases hrest.head rfl with hs | hf
      · rw [hmark.1] at hs
        cases hs
      · rw [hmark.2] at hf
        cases hf
    unfold integer?
    split
    · exact absurd hread (hbase (by decide))
    · exact absurd hread (hbase (by decide))
    · exact absurd hread (hbase (by decide))
    · rw [hread]
      exact ranged?_eq_some_iff.mpr ⟨hrange, rfl, rfl⟩

-- ---------------------------------------------------------------------------
-- Floats
-- ---------------------------------------------------------------------------

theorem fraction_of_read {places : List Char} (h : fraction? text = some (places, rest)) :
    Fraction places text rest := by
  unfold fraction? at h
  split at h
  · exact .intro (digits_of_read h)
  · cases h

theorem Fraction.read {places : List Char} (h : Fraction places text rest)
    (hrest : Leaves (orUnderscore Char.isDigit) rest) : fraction? text = some (places, rest) := by
  cases h with
  | intro h => exact h.read rfl hrest

theorem exponent_of_read {n : Int} (h : exponent? text = some (n, rest)) :
    Exponent n text rest := by
  unfold exponent? at h
  split at h
  · split at h
    · next c text hc =>
      obtain ⟨⟨ds, after⟩, hds, h⟩ := Option.bind_eq_some_iff.mp h
      cases h
      exact .intro (by simpa using hc) (sign_sound text) (digits_of_read hds)
    · cases h
  · cases h

theorem Exponent.read {n : Int} (h : Exponent n text rest)
    (hrest : Leaves (orUnderscore Char.isDigit) rest) : exponent? text = some (n, rest) := by
  cases h with
  | intro hc hs hds =>
    have hread := hds.read rfl hrest
    obtain ⟨d, ds, after, rfl, rfl, hd⟩ := hds.head
    have hsign := hs.read (by rintro ⟨⟩; cases hd) (by rintro ⟨⟩; cases hd)
    simp only [exponent?, beq_iff_eq, Bool.or_eq_true, if_pos hc, hsign, hread]
    rfl

theorem finite?_eq_some_iff {x : Decimal.Binary64} {v : Value} {after : Text} :
    finite? x text = some (v, after) ↔ x ≠ .infinite false ∧ v = .float x ∧ after = text := by
  have hbeq : (x == .infinite false) = true ↔ x = .infinite false := by
    cases x with
    | finite => exact ⟨nofun, nofun⟩
    | infinite negative => cases negative <;> decide
    | nan => exact ⟨nofun, nofun⟩
  unfold finite?
  constructor
  · intro h
    split at h
    · cases h
    · next hx =>
      cases h
      exact ⟨fun he => hx (hbeq.mpr he), rfl, rfl⟩
  · rintro ⟨hx, rfl, rfl⟩
    exact if_neg fun he => hx (hbeq.mp he)

theorem float_of_read {v : Value} (h : float? text = some (v, rest)) :
    ∃ x, v = .float x ∧ Float x text rest ∧ x ≠ .infinite false := by
  unfold float? at h
  obtain ⟨⟨negative, whole, middle⟩, hwhole, h⟩ := Option.bind_eq_some_iff.mp h
  have hwhole := decimal_of_read hwhole
  dsimp only at h
  split at h
  · next places after hplaces =>
    have hplaces := fraction_of_read hplaces
    cases he : exponent? after with
    | none =>
      rw [he] at h
      obtain ⟨hx, rfl, rfl⟩ := finite?_eq_some_iff.mp h
      exact ⟨_, rfl, .fraction hwhole hplaces, hx⟩
    | some read =>
      obtain ⟨exponent, last⟩ := read
      rw [he] at h
      obtain ⟨hx, rfl, rfl⟩ := finite?_eq_some_iff.mp h
      exact ⟨_, rfl, .both hwhole hplaces (exponent_of_read he), hx⟩
  · obtain ⟨⟨exponent, last⟩, he, h⟩ := Option.bind_eq_some_iff.mp h
    obtain ⟨hx, rfl, rfl⟩ := finite?_eq_some_iff.mp h
    exact ⟨_, rfl, .exponent hwhole (exponent_of_read he), hx⟩

theorem Ends.not_exponent (h : Ends rest) : exponent? rest = none := by
  unfold exponent?
  split
  · next c rest =>
    have hc : (c == 'e' || c == 'E') = false :=
      h.leaves (p := fun c => c == 'e' || c == 'E') (by decide) c rfl
    rw [if_neg (by simp [hc])]
  · rfl

theorem Ends.not_fraction (h : Ends rest) : fraction? rest = none := by
  unfold fraction?
  split
  · rcases h.head rfl with hs | hf
    · cases hs
    · cases hf
  · rfl

theorem Fraction.leaves {places : List Char} (h : Fraction places text rest) :
    Leaves (orUnderscore Char.isDigit) text := by
  cases h
  exact .of_cons rfl _

theorem Exponent.leaves {n : Int} (h : Exponent n text rest) :
    Leaves (orUnderscore Char.isDigit) text := by
  cases h with
  | intro hc => rcases hc with rfl | rfl <;> exact .of_cons rfl _

theorem Exponent.not_fraction {n : Int} (h : Exponent n text rest) : fraction? text = none := by
  cases h with
  | intro hc => rcases hc with rfl | rfl <;> rfl

theorem Float.read {x : Decimal.Binary64} (h : Float x text rest) (hrest : Ends rest)
    (hx : x ≠ .infinite false) : float? text = some (.float x, rest) := by
  cases h with
  | fraction hwhole hplaces =>
    simp only [float?, hwhole.read hplaces.leaves, hplaces.read hrest.leaves_digits,
      hrest.not_exponent, Option.bind_eq_bind, Option.bind_some, Option.getD_none]
    exact finite?_eq_some_iff.mpr ⟨hx, rfl, rfl⟩
  | both hwhole hplaces he =>
    simp only [float?, hwhole.read hplaces.leaves, hplaces.read he.leaves,
      he.read hrest.leaves_digits, Option.bind_eq_bind, Option.bind_some, Option.getD_some]
    exact finite?_eq_some_iff.mpr ⟨hx, rfl, rfl⟩
  | exponent hwhole he =>
    simp only [float?, hwhole.read he.leaves, he.not_fraction,
      he.read hrest.leaves_digits, Option.bind_eq_bind, Option.bind_some]
    exact finite?_eq_some_iff.mpr ⟨hx, rfl, rfl⟩

theorem special_of_read {v : Value} (h : specialFloat? text = some (v, rest)) :
    ∃ x, v = .float x ∧ SpecialFloat x text rest := by
  have hsign := sign_sound text
  unfold specialFloat? at h
  split at h
  · next heq =>
    cases h
    rw [heq] at hsign
    exact ⟨_, rfl, .infinite hsign⟩
  · next heq =>
    cases h
    rw [heq] at hsign
    exact ⟨_, rfl, .nan hsign⟩
  · cases h

theorem SpecialFloat.read {x : Decimal.Binary64} (h : SpecialFloat x text rest) :
    specialFloat? text = some (.float x, rest) := by
  cases h with
  | infinite hs => simp only [specialFloat?, hs.read (by simp) (by simp)]
  | nan hs => simp only [specialFloat?, hs.read (by simp) (by simp)]

-- ---------------------------------------------------------------------------
-- Dates and times
-- ---------------------------------------------------------------------------

section
variable {count low high n : Nat}

theorem field?_eq_some_iff : field? count low high text = some (n, rest) ↔
    Field count low high n text rest := by
  unfold field?
  constructor
  · intro h
    dsimp only at h
    split at h
    · next hfield =>
      cases h
      simp only [Bool.and_eq_true, beq_iff_eq, List.all_eq_true, decide_eq_true_eq] at hfield
      obtain ⟨⟨⟨hlength, hdigits⟩, hlow⟩, hhigh⟩ := hfield
      have hfield := @Field.intro count low high (text.take count) (text.drop count) hlength hdigits
        hlow hhigh
      rwa [List.take_append_drop] at hfield
    · cases h
  · rintro ⟨rfl, hdigits, hlow, hhigh⟩
    have hall : List.all _ Char.isDigit := List.all_eq_true.mpr hdigits
    simp only [List.take_left, List.drop_left, hall, hlow, hhigh, beq_self_eq_true, decide_true,
      Bool.and_self, if_true]

theorem expect?_eq_some_iff : expect? c text = some rest ↔ text = c :: rest := by
  cases text with
  | nil => exact ⟨nofun, nofun⟩
  | cons d text =>
    rw [expect?, List.cons.injEq]
    constructor
    · intro h
      split at h
      · next hc =>
        cases h
        exact ⟨(beq_iff_eq.mp hc).symm, rfl⟩
      · cases h
    · rintro ⟨rfl, rfl⟩
      exact if_pos (beq_self_eq_true _)

theorem date?_eq_some_iff : date? text = some rest ↔ Date text rest := by
  constructor
  · intro h
    obtain ⟨⟨year, a⟩, hyear, h⟩ := Option.bind_eq_some_iff.mp h
    obtain ⟨b, hb, h⟩ := Option.bind_eq_some_iff.mp h
    obtain ⟨⟨month, e⟩, hmonth, h⟩ := Option.bind_eq_some_iff.mp h
    obtain ⟨f, hf, h⟩ := Option.bind_eq_some_iff.mp h
    obtain ⟨⟨day, last⟩, hday, h⟩ := Option.bind_eq_some_iff.mp h
    cases h
    have hyear := field?_eq_some_iff.mp hyear
    have hmonth := field?_eq_some_iff.mp hmonth
    rw [expect?_eq_some_iff.mp hb] at hyear
    rw [expect?_eq_some_iff.mp hf] at hmonth
    exact .intro hyear hmonth (field?_eq_some_iff.mp hday)
  · rintro ⟨hyear, hmonth, hday⟩
    simp only [date?, field?_eq_some_iff.mpr hyear, field?_eq_some_iff.mpr hmonth,
      field?_eq_some_iff.mpr hday, expect?, Option.bind_eq_bind, Option.bind_some, beq_self_eq_true,
      if_true]

theorem Field.leads (h : Field count low high n text (c :: rest)) (hcount : count ≠ 0)
    (hc : orUnderscore Char.isDigit c = false) :
    (∀ d ∈ text.head?, d.isDigit) ∧ text.dropWhile (orUnderscore Char.isDigit) = c :: rest := by
  generalize hafter : c :: rest = after at h
  cases h with
  | @intro ds after hlength hdigits =>
    subst hafter
    refine ⟨?_, dropWhile_eq_iff.mpr ⟨⟨ds, rfl, fun d hd => ?_⟩, .of_cons hc _⟩⟩
    · cases ds with
      | nil => exact absurd hlength.symm hcount
      | cons d ds =>
        rintro _ ⟨⟩
        exact hdigits d List.mem_cons_self
    · simp [orUnderscore, hdigits d hd]

end

theorem time_of_read (h : time? text = some rest) : Time text rest := by
  obtain ⟨⟨hour, a⟩, hhour, h⟩ := Option.bind_eq_some_iff.mp h
  obtain ⟨b, hb, h⟩ := Option.bind_eq_some_iff.mp h
  obtain ⟨⟨minute, e⟩, hminute, h⟩ := Option.bind_eq_some_iff.mp h
  obtain ⟨f, hf, h⟩ := Option.bind_eq_some_iff.mp h
  obtain ⟨⟨second, last⟩, hsecond, h⟩ := Option.bind_eq_some_iff.mp h
  have hhour := field?_eq_some_iff.mp hhour
  have hminute := field?_eq_some_iff.mp hminute
  rw [expect?_eq_some_iff.mp hb] at hhour
  rw [expect?_eq_some_iff.mp hf] at hminute
  have hclock := Clock.intro hhour hminute (field?_eq_some_iff.mp hsecond)
  dsimp only at h
  split at h
  · split at h
    · next hc =>
      cases h
      exact .places hclock hc (skips_dropWhile _ _)
    · cases h
      exact .whole hclock
  · cases h
    exact .whole hclock

theorem Time.read (h : Time text rest) (hdigit : Leaves Char.isDigit rest)
    (hdot : rest.head? ≠ some '.') : time? text = some rest := by
  cases h with
  | whole h =>
    obtain ⟨hhour, hminute, hsecond⟩ := h
    simp only [time?, field?_eq_some_iff.mpr hhour, field?_eq_some_iff.mpr hminute,
      field?_eq_some_iff.mpr hsecond, expect?, Option.bind_eq_bind, Option.bind_some,
      beq_self_eq_true, if_true]
    split
    · exact absurd rfl hdot
    · rfl
  | places h hc hs =>
    obtain ⟨hhour, hminute, hsecond⟩ := h
    simp only [time?, field?_eq_some_iff.mpr hhour, field?_eq_some_iff.mpr hminute,
      field?_eq_some_iff.mpr hsecond, expect?, Option.bind_eq_bind, Option.bind_some,
      beq_self_eq_true, if_true, hc, dropWhile_eq_iff.mpr ⟨hs, hdigit⟩]

theorem hours_of_read (hc : c = '+' ∨ c = '-') (h : offset? (c :: text) = some rest) :
    Offset (c :: text) rest := by
  have hread : ((field? 2 0 23 text).bind fun hour => (expect? ':' hour.2).bind fun b =>
      (field? 2 0 59 b).bind fun minute => some minute.2) = some rest := by
    rcases hc with rfl | rfl <;> exact h
  obtain ⟨⟨hour, a⟩, hhour, hread⟩ := Option.bind_eq_some_iff.mp hread
  obtain ⟨b, hb, hread⟩ := Option.bind_eq_some_iff.mp hread
  obtain ⟨⟨minute, e⟩, hminute, hread⟩ := Option.bind_eq_some_iff.mp hread
  cases hread
  obtain rfl : a = ':' :: b := expect?_eq_some_iff.mp hb
  exact .hours hc (field?_eq_some_iff.mp hhour) (field?_eq_some_iff.mp hminute)

theorem offset_of_read (h : offset? text = some rest) : Offset text rest := by
  unfold offset? at h
  split at h
  · cases h
    exact .none (.inl rfl)
  · cases h
    exact .none (.inr rfl)
  · exact hours_of_read (.inl rfl) h
  · exact hours_of_read (.inr rfl) h
  · cases h

theorem Offset.read (h : Offset text rest) : offset? text = some rest := by
  cases h with
  | none hc => rcases hc with rfl | rfl <;> rfl
  | hours hc hhour hminute =>
    rcases hc with rfl | rfl <;>
      simp only [offset?, field?_eq_some_iff.mpr hhour, field?_eq_some_iff.mpr hminute, expect?,
        Option.bind_eq_bind, Option.bind_some, beq_self_eq_true, if_true]

theorem Date.leads (h : Date text rest) : (∀ d ∈ text.head?, d.isDigit) ∧
    ∃ after, text.dropWhile (orUnderscore Char.isDigit) = '-' :: after := by
  obtain ⟨hyear, -⟩ := h
  obtain ⟨hhead, hdrop⟩ := hyear.leads (by decide) rfl
  exact ⟨hhead, _, hdrop⟩

theorem Time.leads (h : Time text rest) : (∀ d ∈ text.head?, d.isDigit) ∧
    ∃ after, text.dropWhile (orUnderscore Char.isDigit) = ':' :: after := by
  obtain ⟨⟨hhour, -⟩⟩ | ⟨⟨hhour, -⟩⟩ := h
  all_goals
    obtain ⟨hhead, hdrop⟩ := hhour.leads (by decide) rfl
    exact ⟨hhead, _, hdrop⟩

theorem moment?_leads (h : moment? text ≠ none) : (∀ d ∈ text.head?, d.isDigit) ∧
    ∃ c after, text.dropWhile (orUnderscore Char.isDigit) = c :: after ∧ (c = '-' ∨ c = ':') := by
  unfold moment? at h
  split at h
  · next hdate =>
    obtain ⟨hhead, after, hdrop⟩ := (date?_eq_some_iff.mp hdate).leads
    exact ⟨hhead, _, after, hdrop, .inl rfl⟩
  · cases htime : time? text with
    | none =>
      rw [htime] at h
      exact absurd rfl h
    | some rest =>
      obtain ⟨hhead, after, hdrop⟩ := (time_of_read htime).leads
      exact ⟨hhead, _, after, hdrop, .inr rfl⟩

theorem Sign.eq_of_digit {negative : Bool} (h : Sign negative text rest)
    (hhead : ∀ d ∈ text.head?, d.isDigit) : text = rest := by
  cases h with
  | none => rfl
  | plus => exact absurd (hhead '+' rfl) (by decide)
  | minus => exact absurd (hhead '-' rfl) (by decide)

theorem Decimal.skips {negative : Bool} (h : Decimal negative ds text rest)
    (hhead : ∀ d ∈ text.head?, d.isDigit) : Skips (orUnderscore Char.isDigit) text rest := by
  cases h with
  | zero hs =>
    rw [hs.eq_of_digit hhead]
    exact skips_cons rfl (Skips.refl _ _)
  | digits hs hds =>
    rw [hs.eq_of_digit hhead]
    exact hds.skips

/-- Where other digits end, neither a dash nor a colon follows, so they are no date. -/
theorem Decimal.not_moment {negative : Bool} (h : Decimal negative ds text rest)
    (hrest : Leaves (orUnderscore Char.isDigit) rest) (hdash : rest.head? ≠ some '-')
    (hcolon : rest.head? ≠ some ':') : moment? text = none := by
  by_contra hmoment
  obtain ⟨hhead, c, after, hdrop, hc⟩ := moment?_leads hmoment
  rw [dropWhile_eq_iff.mpr ⟨h.skips hhead, hrest⟩] at hdrop
  subst hdrop
  rcases hc with rfl | rfl
  · exact hdash rfl
  · exact hcolon rfl

theorem SpecialFloat.not_moment {x : Decimal.Binary64} (h : SpecialFloat x text rest) :
    moment? text = none := by
  by_contra hmoment
  obtain ⟨hhead, -⟩ := moment?_leads hmoment
  cases h with
  | infinite hs =>
    rw [hs.eq_of_digit hhead] at hhead
    exact absurd (hhead 'i' rfl) (by decide)
  | nan hs =>
    rw [hs.eq_of_digit hhead] at hhead
    exact absurd (hhead 'n' rfl) (by decide)

theorem SpecialFloat.not_float {x : Decimal.Binary64} (h : SpecialFloat x text rest) :
    float? text = none := by
  have hdecimal : decimal? text = none := by
    cases h with
    | infinite hs =>
      rw [decimal?, hs.read (by simp) (by simp)]
      rfl
    | nan hs =>
      rw [decimal?, hs.read (by simp) (by simp)]
      rfl
  rw [float?, hdecimal]
  rfl

theorem moment_of_read {v : Value} (h : moment? text = some (v, rest)) :
    v = .map ∧ Moment text rest := by
  unfold moment? at h
  split at h
  · next after hdate =>
    have hdate := date?_eq_some_iff.mp hdate
    cases h
    refine ⟨rfl, ?_⟩
    cases hday : timeOfDate? after with
    | none => exact .date hdate
    | some last =>
      unfold timeOfDate? at hday
      split at hday
      · split at hday
        · next c middle hc =>
          obtain ⟨last, htime, hday⟩ := Option.map_eq_some_iff.mp hday
          have htime := time_of_read htime
          subst hday
          cases hoffset : offset? last with
          | none => exact .both hdate hc htime
          | some => exact .placed hdate hc htime (offset_of_read hoffset)
        · cases hday
      · cases hday
  · obtain ⟨after, htime, h⟩ := Option.map_eq_some_iff.mp h
    cases h
    exact ⟨rfl, .time (time_of_read htime)⟩

theorem Ends.not_moment (h : Ends rest) : moment? rest = none := by
  by_contra hmoment
  obtain ⟨hhead, c, after, hdrop, hc⟩ := moment?_leads hmoment
  rw [dropWhile_eq_iff.mpr ⟨Skips.refl _ _, h.leaves_digits⟩] at hdrop
  subst hdrop
  rcases hc with rfl | rfl
  · exact absurd (hhead _ rfl) (by decide)
  · exact absurd (hhead _ rfl) (by decide)

theorem time?_eq_none (h : moment? text = none) : time? text = none := by
  unfold moment? at h
  split at h
  · cases h
  · exact Option.map_eq_none_iff.mp h

theorem Ends.not_timeOfDate (h : Ends rest) : timeOfDate? rest = none := by
  unfold timeOfDate?
  split
  · next c rest =>
    split
    · next hc =>
      have hspace : c = ' ' := by
        have hmark : (c == 'T' || c == 't') = false :=
          h.leaves (p := fun c => c == 'T' || c == 't') (by decide) c rfl
        simpa [hmark] using hc
      subst hspace
      -- behind one space a value still ends
      have hrest : Ends rest := h
      rw [time?_eq_none hrest.not_moment]
      rfl
    · rfl
  · rfl

theorem Ends.not_offset (h : Ends rest) : offset? rest = none := by
  cases hoffset : offset? rest with
  | none => rfl
  | some =>
    have hmark : Leaves (fun c => ['Z', 'z', '+', '-'].contains c) rest := h.leaves (by decide)
    cases offset_of_read hoffset with
    | none hc => rcases hc with rfl | rfl <;> cases hmark _ rfl
    | hours hc => rcases hc with rfl | rfl <;> cases hmark _ rfl

theorem timeOfDate?_eq (hc : joins c) : timeOfDate? (c :: text) =
    (time? text).map fun rest => (offset? rest).getD rest := if_pos hc

theorem Offset.head (h : Offset text rest) :
    Leaves Char.isDigit text ∧ text.head? ≠ some '.' := by
  cases h with
  | none hc => rcases hc with rfl | rfl <;> exact ⟨.of_cons rfl _, by simp⟩
  | hours hc => rcases hc with rfl | rfl <;> exact ⟨.of_cons rfl _, by simp⟩

theorem Moment.read (h : Moment text rest) (hrest : Ends rest) :
    moment? text = some (.map, rest) := by
  unfold moment?
  cases h with
  | date h => simp only [date?_eq_some_iff.mpr h, hrest.not_timeOfDate, Option.getD_none]
  | time h =>
    have hdate : date? text = none := by
      cases hdate : date? text with
      | none => rfl
      | some =>
        obtain ⟨-, after, hdash⟩ := (date?_eq_some_iff.mp hdate).leads
        obtain ⟨-, after', hcolon⟩ := h.leads
        cases hdash.symm.trans hcolon
    rw [hdate, h.read (hrest.leaves (by decide)) (hrest.head_ne rfl rfl)]
    rfl
  | both h hc ht =>
    rw [date?_eq_some_iff.mpr h]
    simp only [timeOfDate?_eq hc, ht.read (hrest.leaves (by decide)) (hrest.head_ne rfl rfl),
      hrest.not_offset, Option.map_some, Option.getD_none, Option.getD_some]
  | placed h hc ht ho =>
    rw [date?_eq_some_iff.mpr h]
    simp only [timeOfDate?_eq hc, ht.read ho.head.1 ho.head.2, ho.read, Option.map_some,
      Option.getD_some]

-- ---------------------------------------------------------------------------
-- One of them
-- ---------------------------------------------------------------------------

theorem simple_of_number? {v : Value} (h : number? text = some (v, rest)) : Simple v text rest := by
  rcases Option.or_eq_some_iff.mp h with hread | ⟨-, h⟩
  · obtain ⟨rfl, hmoment⟩ := moment_of_read hread
    exact .moment hmoment
  rcases Option.or_eq_some_iff.mp h with hread | ⟨-, h⟩
  · obtain ⟨x, rfl, hfloat, hx⟩ := float_of_read hread
    exact .float hfloat hx
  rcases Option.or_eq_some_iff.mp h with hread | ⟨-, hread⟩
  · obtain ⟨x, rfl, hspecial⟩ := special_of_read hread
    exact .special hspecial
  · obtain ⟨n, rfl, hinteger, hn⟩ := integer_of_read hread
    exact .integer hinteger hn

theorem Float.not_moment {x : Decimal.Binary64} (h : Float x text rest) : moment? text = none := by
  have hfraction {places : List Char} {middle after : Text} (h : Fraction places middle after) :
      middle.head? ≠ some '-' ∧ middle.head? ≠ some ':' := by
    cases h
    exact ⟨by simp, by simp⟩
  cases h with
  | fraction hwhole hplaces =>
    exact hwhole.not_moment hplaces.leaves (hfraction hplaces).1 (hfraction hplaces).2
  | both hwhole hplaces =>
    exact hwhole.not_moment hplaces.leaves (hfraction hplaces).1 (hfraction hplaces).2
  | exponent hwhole he =>
    refine hwhole.not_moment he.leaves ?_ ?_
    all_goals
      obtain ⟨rfl | rfl, -⟩ := he <;> simp

theorem Integer.decimal_front {n : Int} (h : Integer n text rest) (hrest : Ends rest) :
    ∃ negative ds middle, Decimal negative ds text middle ∧
      Leaves (orUnderscore Char.isDigit) middle ∧ middle.head? ≠ some '-' ∧
      middle.head? ≠ some ':' ∧ fraction? middle = none ∧ exponent? middle = none := by
  cases h with
  | decimal h =>
    exact ⟨_, _, _, h, hrest.leaves_digits, hrest.head_ne rfl rfl, hrest.head_ne rfl rfl,
      hrest.not_fraction, hrest.not_exponent⟩
  | hexadecimal | octal | binary =>
    exact ⟨false, ['0'], _, .zero .none, .of_cons rfl _, by simp, by simp, rfl, rfl⟩

theorem Decimal.not_float {negative : Bool} (h : Decimal negative ds text rest)
    (hrest : Leaves (orUnderscore Char.isDigit) rest) (hfraction : fraction? rest = none)
    (hexponent : exponent? rest = none) : float? text = none := by
  simp only [float?, h.read hrest, hfraction, hexponent, Option.bind_eq_bind, Option.bind_some,
    Option.bind_none]

theorem Decimal.sign_read {negative : Bool} (h : Decimal negative ds text rest) :
    ∃ c after, sign text = (negative, c :: after) ∧ c.isDigit := by
  cases h with
  | zero hs => exact ⟨'0', rest, hs.read (by simp) (by simp), rfl⟩
  | digits hs hds =>
    obtain ⟨c, ds, after, rfl, rfl, hc⟩ := hds.head
    exact ⟨c, after, hs.read (by rintro ⟨⟩; cases hc) (by rintro ⟨⟩; cases hc), hc⟩

theorem Decimal.not_special {negative : Bool} (h : Decimal negative ds text rest) :
    specialFloat? text = none := by
  obtain ⟨c, after, hsign, hc⟩ := h.sign_read
  unfold specialFloat?
  rw [hsign]
  split
  · next heq =>
    cases heq
    cases hc
  · next heq =>
    cases heq
    cases hc
  · rfl

theorem Moment.number (h : Moment text rest) (hrest : Ends rest) :
    number? text = some (.map, rest) := by
  rw [number?, h.read hrest]
  rfl

theorem Float.number {x : Decimal.Binary64} (h : Float x text rest) (hrest : Ends rest)
    (hx : x ≠ .infinite false) : number? text = some (.float x, rest) := by
  rw [number?, h.not_moment, h.read hrest hx]
  rfl

theorem SpecialFloat.number {x : Decimal.Binary64} (h : SpecialFloat x text rest) :
    number? text = some (.float x, rest) := by
  rw [number?, h.not_moment, h.not_float, h.read]
  rfl

theorem Integer.number {n : Int} (h : Integer n text rest) (hrest : Ends rest)
    (hn : inRange n) : number? text = some (.integer n, rest) := by
  obtain ⟨negative, ds, middle, hd, hleaves, hdash, hcolon, hf, he⟩ := h.decimal_front hrest
  rw [number?, hd.not_moment hleaves hdash hcolon, hd.not_float hleaves hf he, hd.not_special,
    h.read hrest hn]
  rfl

end ManifestNotice.Toml.Grammar
