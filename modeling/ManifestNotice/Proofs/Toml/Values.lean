import ManifestNotice.Proofs.Toml.Number

/-!
# Values, read

The reader of values takes what the grammar spells and nothing else
(`value?_reads`). A reader is known by what `Reads` says of it, so arrays and
inline tables need no more than that about the values in them.
-/

namespace ManifestNotice.Toml.Grammar

open Json.Grammar (Skips Leaves skips_dropWhile skips_cons leaves_dropWhile)

variable {text rest middle : List Char} {c : Char} {v : Value}

-- ---------------------------------------------------------------------------
-- Values that hold no others
-- ---------------------------------------------------------------------------

def numeric (c : Char) : Bool := c.isDigit || ['+', '-', 'i', 'n'].contains c

def opens (c : Char) : Bool := numeric c || ['"', '\'', 't', 'f', '[', '\x7b'].contains c

/-- A reader takes the values that a relation spells, up to where they end. -/
structure Reads (reader : Reader Value) (spelled : Value → Text → Text → Prop) : Prop where
  sound {v : Value} {text rest : Text} : reader text = some (v, rest) → spelled v text rest
  complete {v : Value} {text rest : Text} : spelled v text rest → Ends rest →
    reader text = some (v, rest)
  head {v : Value} {text rest : Text} : spelled v text rest → ∃ c ∈ text.head?, opens c
  shorter {v : Value} {text rest : Text} : spelled v text rest → rest.length < text.length

theorem simple_of_read (h : simple? text = some (v, rest)) : Simple v text rest := by
  unfold simple? at h
  split at h
  · obtain ⟨⟨s, after⟩, hs, h⟩ := Option.map_eq_some_iff.mp h
    cases h
    exact .text (quoted_of_string? hs)
  · obtain ⟨⟨s, after⟩, hs, h⟩ := Option.map_eq_some_iff.mp h
    cases h
    exact .text (quoted_of_string? hs)
  · cases h
    exact .yes
  · cases h
    exact .no
  · exact simple_of_number? h

theorem simple?_quoted {s : List Char} (h : Quoted s text rest) (hdouble : rest.head? ≠ some '"')
    (hsingle : rest.head? ≠ some '\'') : simple? text = some (.text s, rest) := by
  have hread := h.read hdouble hsingle
  cases h <;> rw [simple?, hread] <;> rfl

theorem simple?_numeric (h : ∃ c ∈ text.head?, numeric c) : simple? text = number? text := by
  obtain ⟨c, hc, h⟩ := h
  unfold simple?
  split
  case h_5 => rfl
  all_goals
    cases hc
    exact absurd h (by decide)

theorem Sign.numeric_head {negative : Bool} (h : Sign negative text rest)
    (hrest : ∃ c ∈ rest.head?, numeric c) : ∃ c ∈ text.head?, numeric c := by
  cases h with
  | none => exact hrest
  | plus => exact ⟨'+', rfl, rfl⟩
  | minus => exact ⟨'-', rfl, rfl⟩

theorem Decimal.numeric_head {negative : Bool} {ds : List Char}
    (h : Decimal negative ds text rest) : ∃ c ∈ text.head?, numeric c := by
  cases h with
  | zero hs => exact hs.numeric_head ⟨'0', rfl, rfl⟩
  | digits hs hds =>
    obtain ⟨c, ds, after, rfl, rfl, hc⟩ := hds.head
    exact hs.numeric_head ⟨c, rfl, by simp [numeric, hc]⟩

theorem Moment.numeric_head (h : Moment text rest) : ∃ c ∈ text.head?, numeric c := by
  have hdigits : ∀ d ∈ text.head?, d.isDigit := by
    cases h with
    | time h => exact h.leads.1
    | date h | both h | placed h => exact h.leads.1
  obtain ⟨c, after, rfl⟩ := List.exists_cons_of_length_pos (Nat.zero_lt_of_lt h.length_lt)
  exact ⟨c, rfl, by simp [numeric, hdigits c rfl]⟩

theorem Integer.numeric_head {n : Int} (h : Integer n text rest) :
    ∃ c ∈ text.head?, numeric c := by
  cases h with
  | decimal h => exact h.numeric_head
  | hexadecimal | octal | binary => exact ⟨'0', rfl, rfl⟩

theorem Float.numeric_head {x : Decimal.Binary64} (h : Float x text rest) :
    ∃ c ∈ text.head?, numeric c := by
  cases h with
  | fraction h | both h | exponent h => exact h.numeric_head

theorem SpecialFloat.numeric_head {x : Decimal.Binary64} (h : SpecialFloat x text rest) :
    ∃ c ∈ text.head?, numeric c := by
  cases h with
  | infinite hs => exact hs.numeric_head ⟨'i', rfl, rfl⟩
  | nan hs => exact hs.numeric_head ⟨'n', rfl, rfl⟩

theorem Simple.read (h : Simple v text rest) (hrest : Ends rest) :
    simple? text = some (v, rest) := by
  cases h with
  | text h => exact simple?_quoted h (hrest.head_ne rfl rfl) (hrest.head_ne rfl rfl)
  | yes => rfl
  | no => rfl
  | moment h => rw [simple?_numeric h.numeric_head, h.number hrest]
  | integer h hn => rw [simple?_numeric h.numeric_head, h.number hrest hn]
  | float h hx => rw [simple?_numeric h.numeric_head, h.number hrest hx]
  | special h => rw [simple?_numeric h.numeric_head, h.number]

theorem opens_of_numeric (h : ∃ c ∈ text.head?, numeric c) : ∃ c ∈ text.head?, opens c ∧
    c ≠ '[' ∧ c ≠ '\x7b' := by
  obtain ⟨c, hc, h⟩ := h
  refine ⟨c, hc, ?_, ?_, ?_⟩
  · simp [opens, h]
  all_goals
    rintro rfl
    revert h
    decide

theorem Simple.head (h : Simple v text rest) : ∃ c ∈ text.head?, opens c ∧
    c ≠ '[' ∧ c ≠ '\x7b' := by
  cases h with
  | text h => cases h <;> exact ⟨_, rfl, by decide⟩
  | yes => exact ⟨'t', rfl, by decide⟩
  | no => exact ⟨'f', rfl, by decide⟩
  | moment h => exact opens_of_numeric h.numeric_head
  | integer h => exact opens_of_numeric h.numeric_head
  | float h => exact opens_of_numeric h.numeric_head
  | special h => exact opens_of_numeric h.numeric_head

theorem simple?_reads : Reads simple? Simple where
  sound := simple_of_read
  complete := Simple.read
  head h := by
    obtain ⟨c, hc, hopens, -⟩ := h.head
    exact ⟨c, hc, hopens⟩
  shorter := Simple.length_lt

-- ---------------------------------------------------------------------------
-- Arrays
-- ---------------------------------------------------------------------------

theorem not_of_opens (h : opens c) : isSpace c = false ∧ c ≠ '\n' ∧ c ≠ '\r' ∧ c ≠ '#' ∧
    c ≠ ']' ∧ c ≠ '\x7d' ∧ c ≠ '=' := by
  refine ⟨Bool.eq_false_iff.mpr fun hs => ?_, ?_⟩
  · rcases isSpace_iff.mp hs with rfl | rfl <;> revert h <;> decide
  · refine ⟨?_, ?_, ?_, ?_, ?_, ?_⟩
    all_goals
      rintro rfl
      revert h
      decide


/-- What is skipped from inside a comment on, or from outside. -/
inductive Skipped : Bool → Text → Text → Prop
  | outside {text rest : Text} : Blank text rest → Skipped false text rest
  | inside {text middle after rest : Text} : Skips isPlain text middle → Newline middle after →
      Blank after rest → Skipped true text rest

theorem Skipped.blank (h : Skipped false text rest) : Blank text rest := by
  cases h
  assumption

theorem Skipped.newline {inComment : Bool} (hn : Newline text middle)
    (h : Skipped false middle rest) : Skipped inComment text rest := by
  cases inComment with
  | false => exact .outside (.line hn h.blank)
  | true => exact .inside (Skips.refl _ _) hn h.blank

theorem skipped_of_skipLines? {inComment : Bool} (h : skipLines? inComment text = some rest) :
    Skipped inComment text rest := by
  fun_induction skipLines? inComment text with
  | case1 | case6 => cases h
  | case2 inComment houtside =>
    cases h
    rw [Bool.not_eq_true] at houtside
    exact houtside ▸ .outside .refl
  | case3 inComment text ih => exact (ih h).newline .feed
  | case4 inComment text ih => exact (ih h).newline .both
  | case5 c text _ _ hc ih =>
    obtain _ | ⟨hs, hn, hb⟩ := ih h
    exact .inside (skips_cons hc hs) hn hb
  | case7 inComment c text _ _ houtside hc ih =>
    rw [Bool.not_eq_true] at houtside
    exact houtside ▸ .outside (.space hc (ih h).blank)
  | case8 inComment c text _ _ houtside _ hc ih =>
    rw [Bool.not_eq_true] at houtside
    obtain _ | ⟨hs, hn, hb⟩ := ih h
    rw [beq_iff_eq.mp hc]
    exact houtside ▸ .outside (.comment (.intro hs) hn hb)
  | case9 inComment c text _ _ houtside =>
    rw [Bool.not_eq_true] at houtside
    cases h
    exact houtside ▸ .outside .refl

/-- A character that neither space nor a line break nor a comment starts with. -/
def stands (c : Char) : Bool := !isSpace c && !(['\n', '\r', '#'].contains c)

theorem skipLines?_char {inComment : Bool} (hfeed : c ≠ '\n') (hreturn : c ≠ '\r') :
    skipLines? inComment (c :: text) =
      if inComment then if isPlain c then skipLines? true text else none
      else if isSpace c then skipLines? false text
      else if c == '#' then skipLines? true text
      else some (c :: text) := by
  rw [skipLines?]
  · exact hfeed
  · exact fun _ h => absurd h hreturn

theorem skipLines?_newline {inComment : Bool} (h : Newline text rest) :
    skipLines? inComment text = skipLines? false rest := by
  cases h <;> rw [skipLines?]

theorem skipLines?_comment (hs : Skips isPlain text middle) (hn : Newline middle rest) :
    skipLines? true text = skipLines? false rest := by
  obtain ⟨run, rfl, hrun⟩ := hs
  induction run with
  | nil => exact skipLines?_newline hn
  | cons c run ih =>
    obtain ⟨hc, hrun⟩ := List.forall_mem_cons.mp hrun
    obtain ⟨hfeed, hreturn⟩ := not_isPlain_break hc
    rw [List.cons_append, skipLines?_char hfeed hreturn, if_pos rfl, if_pos hc, ih hrun]

theorem Blank.read (h : Blank text rest) (hrest : ∃ c ∈ rest.head?, stands c) :
    skipLines? false text = some rest := by
  induction h with
  | refl =>
    obtain ⟨c, hc, hstands⟩ := hrest
    obtain ⟨text, rfl⟩ := List.head?_eq_some_iff.mp hc
    simp only [stands, List.contains_eq_mem, List.mem_cons, List.not_mem_nil, or_false,
      Bool.and_eq_true, Bool.not_eq_true', decide_eq_false_iff_not, not_or] at hstands
    obtain ⟨hspace, hfeed, hreturn, hmark⟩ := hstands
    rw [skipLines?_char hfeed hreturn]
    simp [hspace, hmark]
  | space hc _ ih =>
    rcases isSpace_iff.mp hc with rfl | rfl
    · rw [skipLines?_char (by decide) (by decide)]
      exact ih hrest
    · rw [skipLines?_char (by decide) (by decide)]
      exact ih hrest
  | line hn _ ih => rw [skipLines?_newline hn, ih hrest]
  | comment hc hn _ ih =>
    obtain ⟨hs⟩ := hc
    rw [skipLines?_char (by decide) (by decide), ← ih hrest]
    exact skipLines?_comment hs hn

theorem Blank.ends (h : Blank text rest) (hrest : Ends rest) : Ends text := by
  induction h with
  | refl => exact hrest
  | @space c text rest hc _ ih =>
    have hskip : skipSpace (c :: text) = skipSpace text := List.dropWhile_cons_of_pos hc
    rw [Ends, hskip]
    exact ih hrest
  | line hn =>
    rintro c hc
    cases hn <;> cases hc <;> rfl
  | comment hc =>
    obtain ⟨hs⟩ := hc
    rintro c ⟨⟩
    rfl

theorem stands_of_opens (h : opens c) : stands c := by
  obtain ⟨hspace, hfeed, hreturn, hmark, -⟩ := not_of_opens h
  simp [stands, hspace, hfeed, hreturn, hmark]

theorem ends_cons (hc : follows c) (hstands : stands c) : Ends (c :: text) := by
  have hspace : isSpace c = false := by
    rw [stands, Bool.and_eq_true] at hstands
    simpa using hstands.1
  intro d hd
  rw [skipSpace, List.dropWhile_cons_of_neg (by simp [hspace])] at hd
  cases hd
  exact hc

section
variable {value : Reader Value} {spelled : Value → Text → Text → Prop}

theorem elements_of_read (hvalue : Reads value spelled) {fuel : Nat}
    (h : elements? value fuel text = some rest) : Elements spelled text rest := by
  induction fuel generalizing text with
  | zero => cases h
  | succ fuel ih =>
    unfold elements? at h
    obtain ⟨start, hstart, h⟩ := Option.bind_eq_some_iff.mp h
    have hstart := (skipped_of_skipLines? hstart).blank
    dsimp only at h
    split at h
    · cases h
      exact .close hstart
    · obtain ⟨⟨v, stop⟩, hv, h⟩ := Option.bind_eq_some_iff.mp h
      obtain ⟨after, hafter, h⟩ := Option.bind_eq_some_iff.mp h
      have hafter := (skipped_of_skipLines? hafter).blank
      split at h
      · exact .more hstart (hvalue.sound hv) hafter (ih h)
      · cases h
        exact .last hstart (hvalue.sound hv) hafter
      · cases h

/-- One element is read, and what stands behind it decides how to go on. -/
theorem elements?_value (hvalue : Reads value spelled) {start stop after : List Char} {fuel : Nat}
    (hstart : Blank text start) (hv : spelled v start stop) (hafter : Blank stop (c :: after))
    (hc : follows c) (hstands : stands c) : elements? value (fuel + 1) text =
      match c :: after with
      | ',' :: rest => elements? value fuel rest
      | ']' :: rest => some rest
      | _ => none := by
  obtain ⟨d, hd, hopens⟩ := hvalue.head hv
  obtain ⟨start, rfl⟩ := List.head?_eq_some_iff.mp hd
  have hends : Ends stop := hafter.ends (ends_cons hc hstands)
  rw [elements?, hstart.read ⟨d, rfl, stands_of_opens hopens⟩]
  simp only [Option.bind_eq_bind, Option.bind_some]
  split
  · next heq => exact absurd (List.cons.inj heq).1 (not_of_opens hopens).2.2.2.2.1
  · rw [hvalue.complete hv hends]
    simp only [Option.bind_some, hafter.read ⟨c, rfl, hstands⟩]
    rfl

theorem Elements.read (hvalue : Reads value spelled) (h : Elements spelled text rest) {fuel : Nat}
    (hfuel : text.length < fuel) : elements? value fuel text = some rest := by
  induction h generalizing fuel with
  | close hb =>
    obtain ⟨fuel, rfl⟩ := Nat.exists_eq_succ_of_ne_zero (Nat.ne_zero_of_lt hfuel)
    rw [elements?, hb.read ⟨']', rfl, rfl⟩]
    rfl
  | last hstart hv hstop =>
    obtain ⟨fuel, rfl⟩ := Nat.exists_eq_succ_of_ne_zero (Nat.ne_zero_of_lt hfuel)
    exact elements?_value hvalue hstart hv hstop rfl rfl
  | more hstart hv hstop _ ih =>
    obtain ⟨fuel, rfl⟩ := Nat.exists_eq_succ_of_ne_zero (Nat.ne_zero_of_lt hfuel)
    have hshorter := hvalue.shorter hv
    rw [elements?_value hvalue hstart hv hstop rfl rfl]
    exact ih (by grind)

end

section
variable {value : Reader Value} {spelled : Value → Text → Text → Prop} {keys : List Key}
  {span : Span}

-- ---------------------------------------------------------------------------
-- Pairs and inline tables
-- ---------------------------------------------------------------------------

theorem leaves_of_opens (h : ∃ c ∈ text.head?, opens c) : Leaves isSpace text := by
  obtain ⟨c, hc, hopens⟩ := h
  rintro d hd
  cases hd.symm.trans hc
  exact (not_of_opens hopens).1

theorem pair_of_read (hvalue : Reads value spelled)
    (h : pair? value text = some ((keys, v, span), rest)) : Pair spelled keys v span text rest := by
  obtain ⟨⟨keys, a⟩, hkeys, h⟩ := Option.bind_eq_some_iff.mp h
  obtain ⟨b, hb, h⟩ := Option.bind_eq_some_iff.mp h
  obtain ⟨⟨v, after⟩, hv, h⟩ := Option.bind_eq_some_iff.mp h
  cases h
  obtain ⟨hpath, hlength⟩ := path_of_keys? hkeys
  rw [expect?_eq_some_iff.mp hb] at hpath
  exact .intro hpath hlength (skips_dropWhile _ _) (hvalue.sound hv)

theorem Pair.read (hvalue : Reads value spelled) (h : Pair spelled keys v span text rest)
    (hrest : Ends rest) : pair? value text = some ((keys, v, span), rest) := by
  cases h with
  | intro hpath hlength hs hv =>
    have hleaves := leaves_of_opens (hvalue.head hv)
    simp only [pair?, path?, hpath.read hlength (.of_cons rfl _) (by simp), expect?,
      beq_self_eq_true, if_true, skipSpace_eq hs hleaves, hvalue.complete hv hrest,
      Option.bind_eq_bind, Option.bind_some]

theorem Pair.length_lt (hvalue : Reads value spelled) (h : Pair spelled keys v span text rest) :
    rest.length < text.length := by
  cases h with
  | intro hpath _ hs hv =>
    have := hvalue.shorter hv
    grind

theorem ends_of_spaces (hs : Spaces text (c :: rest)) (hspace : isSpace c = false)
    (hc : follows c) : Ends text := by
  rw [Ends, skipSpace_eq hs (.of_cons hspace _)]
  rintro d ⟨⟩
  exact hc

theorem pairs_of_read (hvalue : Reads value spelled) {fuel : Nat}
    {paths : List (List (List Char))} (h : pairs? value fuel text = some (paths, rest)) :
    Pairs spelled paths text rest := by
  induction fuel generalizing text paths with
  | zero => cases h
  | succ fuel ih =>
    unfold pairs? at h
    obtain ⟨⟨⟨keys, v, span⟩, after⟩, hpair, h⟩ := Option.bind_eq_some_iff.mp h
    have hpair := pair_of_read hvalue hpair
    have hspaces := skips_dropWhile isSpace after
    dsimp only at h
    split at h
    · next heq =>
      obtain ⟨⟨paths, last⟩, hpaths, h⟩ := Option.bind_eq_some_iff.mp h
      cases h
      rw [← skipSpace, heq] at hspaces
      exact .more hpair hspaces (ih hpaths)
    · next heq =>
      cases h
      rw [← skipSpace, heq] at hspaces
      exact .last hpair hspaces
    · cases h

theorem Pairs.read (hvalue : Reads value spelled) {paths : List (List (List Char))}
    (h : Pairs spelled paths text rest) {fuel : Nat} (hfuel : text.length ≤ fuel) :
    pairs? value fuel text = some (paths, rest) := by
  induction h generalizing fuel with
  | last hpair hs =>
    have hlength := hpair.length_lt hvalue
    obtain ⟨fuel, rfl⟩ := Nat.exists_eq_succ_of_ne_zero (show fuel ≠ 0 by omega)
    rw [pairs?, hpair.read hvalue (ends_of_spaces hs rfl rfl)]
    simp only [Option.bind_eq_bind, Option.bind_some, skipSpace_eq hs (.of_cons rfl _)]
    rfl
  | more hpair hs _ ih =>
    have hlength := hpair.length_lt hvalue
    obtain ⟨fuel, rfl⟩ := Nat.exists_eq_succ_of_ne_zero (show fuel ≠ 0 by omega)
    rw [pairs?, hpair.read hvalue (ends_of_spaces hs rfl rfl)]
    simp only [Option.bind_eq_bind, Option.bind_some, skipSpace_eq hs (.of_cons rfl _)]
    rw [ih (by have := skips_length hs; grind)]
    rfl

theorem apart_iff (paths : List (List (List Char))) :
    apart paths ↔ paths.Pairwise (fun a b => ¬ a <+: b ∧ ¬ b <+: a) := by
  induction paths with
  | nil => simp [apart]
  | cons path paths ih => simp [apart, ih, ← Bool.not_eq_true, List.isPrefixOf_iff_prefix]

theorem skipSpace_skipSpace (text : Text) : skipSpace (skipSpace text) = skipSpace text :=
  skipSpace_eq (Skips.refl _ _) (leaves_dropWhile isSpace text)

theorem skipSpace_of_spaces (h : Spaces text rest) : skipSpace text = skipSpace rest := by
  obtain ⟨run, rfl, hrun⟩ := h
  exact List.dropWhile_append_of_pos hrun

theorem spaces_skipSpace_iff (hrest : Leaves isSpace rest) :
    Spaces (skipSpace text) rest ↔ Spaces text rest := by
  have hiff {text : Text} : Spaces text rest ↔ skipSpace text = rest :=
    ⟨fun h => skipSpace_eq h hrest, fun h => h ▸ skips_dropWhile _ _⟩
  rw [hiff, hiff, skipSpace_skipSpace]

theorem path_skipSpace_iff : Path keys (skipSpace text) rest ↔ Path keys text rest := by
  constructor
  · intro h
    cases h with
    | last hs hname hstop => exact .last ((spaces_skipSpace_iff hname.leaves).mp hs) hname hstop
    | more hs hname hstop hpath =>
      exact .more ((spaces_skipSpace_iff hname.leaves).mp hs) hname hstop hpath
  · intro h
    cases h with
    | last hs hname hstop => exact .last ((spaces_skipSpace_iff hname.leaves).mpr hs) hname hstop
    | more hs hname hstop hpath =>
      exact .more ((spaces_skipSpace_iff hname.leaves).mpr hs) hname hstop hpath

theorem pair_skipSpace_iff :
    Pair spelled keys v span (skipSpace text) rest ↔ Pair spelled keys v span text rest := by
  constructor
  · rintro ⟨hpath, hlength, hs, hv⟩
    exact .intro (path_skipSpace_iff.mp hpath) hlength hs hv
  · rintro ⟨hpath, hlength, hs, hv⟩
    exact .intro (path_skipSpace_iff.mpr hpath) hlength hs hv

theorem pairs_skipSpace_iff {paths : List (List (List Char))} :
    Pairs spelled paths (skipSpace text) rest ↔ Pairs spelled paths text rest := by
  constructor
  · intro h
    cases h with
    | last hpair hs => exact .last (pair_skipSpace_iff.mp hpair) hs
    | more hpair hs h => exact .more (pair_skipSpace_iff.mp hpair) hs h
  · intro h
    cases h with
    | last hpair hs => exact .last (pair_skipSpace_iff.mpr hpair) hs
    | more hpair hs h => exact .more (pair_skipSpace_iff.mpr hpair) hs h

theorem SimpleKey.head {name : List Char} (h : SimpleKey name text rest) :
    ∃ c ∈ text.head?, isBare c ∨ c = '"' ∨ c = '\'' := by
  cases h with
  | bare hname hbare =>
    obtain ⟨c, name, rfl⟩ := List.exists_cons_of_ne_nil hname
    exact ⟨c, rfl, .inl (hbare c List.mem_cons_self)⟩
  | basic => exact ⟨_, rfl, .inr (.inl rfl)⟩
  | literal => exact ⟨_, rfl, .inr (.inr rfl)⟩

theorem Path.head (h : Path keys text rest) :
    ∃ c ∈ (skipSpace text).head?, isBare c ∨ c = '"' ∨ c = '\'' := by
  cases h with
  | last hs hname | more hs hname =>
    rw [skipSpace_eq hs hname.leaves]
    exact hname.head

theorem Pairs.head {paths : List (List (List Char))} (h : Pairs spelled paths text rest) :
    ∃ c ∈ (skipSpace text).head?, isBare c ∨ c = '"' ∨ c = '\'' := by
  cases h with
  | last hpair | more hpair =>
    obtain ⟨hpath⟩ := hpair
    exact hpath.head

theorem inlineTable_of_read (hvalue : Reads value spelled)
    (h : inlineTable? value text = some rest) : InlineTable spelled text rest := by
  have hspaces := skips_dropWhile isSpace text
  unfold inlineTable? at h
  split at h
  · next heq =>
    cases h
    rw [← skipSpace, heq] at hspaces
    exact .empty hspaces
  · obtain ⟨⟨paths, after⟩, hpaths, h⟩ := Option.bind_eq_some_iff.mp h
    dsimp only at h
    split at h
    · next hapart =>
      cases h
      exact .pairs (pairs_skipSpace_iff.mp (pairs_of_read hvalue hpaths)) ((apart_iff _).mp hapart)
    · cases h

theorem InlineTable.read (hvalue : Reads value spelled) (h : InlineTable spelled text rest) :
    inlineTable? value text = some rest := by
  unfold inlineTable?
  cases h with
  | empty hs =>
    rw [skipSpace_eq hs (.of_cons rfl _)]
    rfl
  | pairs hpaths hapart =>
    obtain ⟨c, hc, hkey⟩ := hpaths.head
    have hpaths := pairs_skipSpace_iff.mpr hpaths
    split
    · next heq =>
      rw [heq] at hc
      cases hc
      exact absurd hkey (by decide)
    · rw [hpaths.read hvalue le_rfl]
      simp [(apart_iff _).mpr hapart]

end

-- ---------------------------------------------------------------------------
-- All values
-- ---------------------------------------------------------------------------

section
variable {value : Reader Value} {spelled : Value → Text → Text → Prop}

theorem Elements.length_lt (hvalue : Reads value spelled) (h : Elements spelled text rest) :
    rest.length < text.length := by
  induction h with grind [→ hvalue.shorter]

theorem Pairs.length_lt (hvalue : Reads value spelled) {paths : List (List (List Char))}
    (h : Pairs spelled paths text rest) : rest.length < text.length := by
  induction h with grind [→ Pair.length_lt]

theorem Compound.length_lt (hvalue : Reads value spelled) (h : Compound spelled v text rest) :
    rest.length < text.length := by
  cases h with
  | array h => exact Nat.lt_succ_of_lt (h.length_lt hvalue)
  | table h =>
    cases h with
    | empty hs => grind
    | pairs h => exact Nat.lt_succ_of_lt (h.length_lt hvalue)

end

theorem nested_of_read {depth : Nat} (hvalue : Reads (value? depth) (Nested depth))
    (h : value? (depth + 1) text = some (v, rest)) : Nested (depth + 1) v text rest := by
  unfold value? at h
  split at h
  · obtain ⟨after, helements, h⟩ := Option.map_eq_some_iff.mp h
    cases h
    exact .inr (.array (elements_of_read hvalue helements))
  · obtain ⟨after, htable, h⟩ := Option.map_eq_some_iff.mp h
    cases h
    exact .inr (.table (inlineTable_of_read hvalue htable))
  · exact .inl (simple_of_read h)

theorem Nested.read {depth : Nat} (hvalue : Reads (value? depth) (Nested depth))
    (h : Nested (depth + 1) v text rest) (hrest : Ends rest) :
    value? (depth + 1) text = some (v, rest) := by
  rcases h with h | h
  · obtain ⟨c, hc, -, hbracket, hbrace⟩ := h.head
    unfold value?
    split
    · cases hc
      exact absurd rfl hbracket
    · cases hc
      exact absurd rfl hbrace
    · exact h.read hrest
  · cases h with
    | array h =>
      show (elements? (value? depth) _ _).map _ = _
      rw [List.length_cons, h.read hvalue (Nat.lt_succ_self _)]
      rfl
    | table h =>
      show (inlineTable? (value? depth) _).map _ = _
      rw [h.read hvalue]
      rfl

theorem value?_reads (depth : Nat) : Reads (value? depth) (Nested depth) := by
  induction depth with
  | zero =>
    have hzero : value? 0 = simple? := funext fun text => by rw [value?]
    rw [hzero]
    exact simple?_reads
  | succ depth ih =>
    refine ⟨nested_of_read ih, Nested.read ih, ?_, ?_⟩
    · rintro v text rest (h | h)
      · exact simple?_reads.head h
      · cases h <;> exact ⟨_, rfl, by decide⟩
    · rintro v text rest (h | h)
      · exact h.length_lt
      · exact h.length_lt ih

end ManifestNotice.Toml.Grammar
