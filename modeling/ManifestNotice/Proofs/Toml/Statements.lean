import ManifestNotice.Proofs.Toml.Values

/-!
# Statements, read

The statements of a text are read line by line, and they are those that the
text spells (`statements?_eq_some_iff`).
-/

namespace ManifestNotice.Toml.Grammar

open Json.Grammar (Skips Leaves skips_dropWhile dropWhile_eq_iff)

variable {text rest middle : List Char} {c : Char} {v : Value}

-- ---------------------------------------------------------------------------
-- Statements
-- ---------------------------------------------------------------------------

variable {statement : Statement} {keys path : List Key} {key : Key}

theorem splitLast_append (path : List Key) (key : Key) :
    splitLast (path ++ [key]) = some (path, key) := by
  induction path with
  | nil => rfl
  | cons k path ih =>
    rw [List.cons_append, splitLast, ih]
    · rfl
    · simp

theorem eq_append_of_splitLast (h : splitLast keys = some (path, key)) : keys = path ++ [key] := by
  induction keys generalizing path with
  | nil => cases h
  | cons k keys ih =>
    cases keys with
    | nil =>
      cases h
      rfl
    | cons l keys =>
      obtain ⟨⟨path', key'⟩, hlast, h⟩ := Option.map_eq_some_iff.mp h
      cases h
      rw [ih hlast]
      rfl

theorem length_append_le : (path ++ [key]).length ≤ depthLimit ↔ path.length < depthLimit := by
  rw [List.length_append]
  exact Iff.rfl

theorem stated_of_header? (h : header? text = some (statement, rest)) :
    Stated statement text rest := by
  unfold header? at h
  split at h
  · obtain ⟨⟨keys, a⟩, hkeys, h⟩ := Option.bind_eq_some_iff.mp h
    obtain ⟨b, hb, h⟩ := Option.bind_eq_some_iff.mp h
    obtain ⟨⟨path, key⟩, hlast, h⟩ := Option.bind_eq_some_iff.mp h
    cases h
    obtain ⟨e, he, hb⟩ := Option.bind_eq_some_iff.mp hb
    obtain ⟨hpath, hlength⟩ := path_of_keys? hkeys
    rw [eq_append_of_splitLast hlast] at hpath hlength
    rw [expect?_eq_some_iff.mp he, expect?_eq_some_iff.mp hb] at hpath
    exact .tables hpath (length_append_le.mp hlength)
  · obtain ⟨⟨keys, a⟩, hkeys, h⟩ := Option.bind_eq_some_iff.mp h
    obtain ⟨b, hb, h⟩ := Option.bind_eq_some_iff.mp h
    obtain ⟨⟨path, key⟩, hlast, h⟩ := Option.bind_eq_some_iff.mp h
    cases h
    obtain ⟨hpath, hlength⟩ := path_of_keys? hkeys
    rw [eq_append_of_splitLast hlast] at hpath hlength
    rw [expect?_eq_some_iff.mp hb] at hpath
    exact .table hpath (length_append_le.mp hlength)
  · cases h

theorem stated_of_assignment? (h : assignment? text = some (statement, rest)) :
    Stated statement text rest := by
  obtain ⟨⟨⟨keys, v, span⟩, after⟩, hpair, h⟩ := Option.bind_eq_some_iff.mp h
  obtain ⟨⟨path, key⟩, hlast, h⟩ := Option.bind_eq_some_iff.mp h
  cases h
  have hpair := pair_of_read (value?_reads depthLimit) hpair
  rw [eq_append_of_splitLast hlast] at hpair
  exact .pair hpair

theorem Path.head_ne (h : Path keys text rest) : text.head? ≠ some '[' := by
  intro hc
  obtain ⟨text, rfl⟩ := List.head?_eq_some_iff.mp hc
  obtain ⟨c, hc, hkey⟩ := h.head
  rw [skipSpace, List.dropWhile_cons_of_neg (by decide)] at hc
  cases hc
  exact absurd hkey (by decide)

theorem header?_read (h : Stated statement ('[' :: text) rest) :
    header? ('[' :: text) = some (statement, rest) := by
  cases h with
  | pair h =>
    obtain ⟨hpath⟩ := h
    exact absurd rfl hpath.head_ne
  | table hpath hlength =>
    have hread := hpath.read (length_append_le.mpr hlength) (.of_cons rfl _) (by simp)
    rw [header?]
    · rw [path?, hread]
      simp [expect?, splitLast_append]
    · rintro after rfl
      exact hpath.head_ne rfl
  | tables hpath hlength =>
    have hread := hpath.read (length_append_le.mpr hlength) (.of_cons rfl _) (by simp)
    rw [header?, path?, hread]
    simp [expect?, splitLast_append]

theorem assignment?_read (h : Stated statement text rest) (hhead : text.head? ≠ some '[')
    (hrest : Ends rest) : assignment? text = some (statement, rest) := by
  cases h with
  | pair h =>
    rw [assignment?, h.read (value?_reads depthLimit) hrest]
    simp only [Option.bind_eq_bind, Option.bind_some, splitLast_append]
  | table | tables => exact absurd rfl hhead

-- ---------------------------------------------------------------------------
-- Lines
-- ---------------------------------------------------------------------------

inductive LineEnd : Text → Text → Prop
  | last {text : Text} : Trail text [] → LineEnd text []
  | newline {text middle rest : Text} : Trail text middle → Newline middle rest → LineEnd text rest

theorem trail_skipComment (text : Text) : Trail text (skipComment (skipSpace text)) := by
  have hspaces := skips_dropWhile isSpace text
  unfold skipComment
  split
  · next heq =>
    rw [← skipSpace, heq] at hspaces
    exact .comment hspaces (.intro (skips_dropWhile _ _))
  · exact .space hspaces

theorem lineEnd_of_read (h : lineEnd? text = some rest) : LineEnd text rest := by
  have htrail := trail_skipComment text
  unfold lineEnd? at h
  split at h
  · next heq =>
    cases h
    rw [heq] at htrail
    exact .last htrail
  · exact .newline htrail (newline?_eq_some_iff.mp h)

theorem leaves_break {p : Char → Bool} (hfeed : p '\n' = false) (hreturn : p '\r' = false)
    (h : text = [] ∨ ∃ after, Newline text after) : Leaves p text := by
  rcases h with rfl | ⟨after, hn⟩
  · nofun
  · cases hn with
    | feed => exact .of_cons hfeed _
    | both => exact .of_cons hreturn _

theorem Trail.skipComment (h : Trail text rest) (hrest : rest = [] ∨ ∃ after, Newline rest after) :
    skipComment (skipSpace text) = rest := by
  cases h with
  | space hs =>
    rw [skipSpace_eq hs (leaves_break rfl rfl hrest)]
    rcases hrest with rfl | ⟨after, hn⟩
    · rfl
    · cases hn <;> rfl
  | comment hs hc =>
    obtain ⟨hc⟩ := hc
    rw [skipSpace_eq hs (.of_cons rfl _)]
    exact dropWhile_eq_iff.mpr ⟨hc, leaves_break rfl rfl hrest⟩

theorem Trail.ends (h : Trail text rest) (hrest : rest = [] ∨ ∃ after, Newline rest after) :
    Ends text := by
  intro c hc
  cases h with
  | space hs =>
    rw [skipSpace_eq hs (leaves_break rfl rfl hrest)] at hc
    rcases hrest with rfl | ⟨after, hn⟩
    · cases hc
    · cases hn <;> cases hc <;> rfl
  | comment hs hcomment =>
    obtain ⟨hcomment⟩ := hcomment
    rw [skipSpace_eq hs (.of_cons rfl _)] at hc
    cases hc
    rfl

theorem LineEnd.read (h : LineEnd text rest) : lineEnd? text = some rest := by
  unfold lineEnd?
  cases h with
  | last h => rw [h.skipComment (.inl rfl)]
  | newline h hn =>
    rw [h.skipComment (.inr ⟨_, hn⟩)]
    cases hn <;> rfl

theorem LineEnd.ends (h : LineEnd text rest) : Ends text := by
  cases h with
  | last h => exact h.ends (.inl rfl)
  | newline h hn => exact h.ends (.inr ⟨_, hn⟩)

inductive Line : Option Statement → Text → Text → Prop
  | blank {text rest : Text} : LineEnd text rest → Line none text rest
  | stated {statement : Statement} {text start stop rest : Text} : Spaces text start →
      Stated statement start stop → LineEnd stop rest → Line (some statement) text rest

theorem lineEnd?_skipSpace (text : Text) : lineEnd? (skipSpace text) = lineEnd? text := by
  rw [lineEnd?, lineEnd?, skipSpace_skipSpace]

theorem line_of_read {line : Option Statement} (h : line? text = some (line, rest)) :
    Line line text rest := by
  have hspaces := skips_dropWhile isSpace text
  unfold line? at h
  split at h
  · next heq =>
    obtain ⟨⟨statement, stop⟩, hheader, h⟩ := Option.bind_eq_some_iff.mp h
    obtain ⟨after, hend, h⟩ := Option.bind_eq_some_iff.mp h
    cases h
    rw [← skipSpace, heq] at hspaces
    exact .stated hspaces (stated_of_header? hheader) (lineEnd_of_read hend)
  · split at h
    · next hend =>
      cases h
      rw [lineEnd?_skipSpace] at hend
      exact .blank (lineEnd_of_read hend)
    · obtain ⟨⟨statement, stop⟩, hpair, h⟩ := Option.bind_eq_some_iff.mp h
      obtain ⟨after, hend, h⟩ := Option.bind_eq_some_iff.mp h
      cases h
      exact .stated hspaces (stated_of_assignment? hpair) (lineEnd_of_read hend)

theorem Stated.skipSpace (h : Stated statement text rest) :
    Stated statement (skipSpace text) rest := by
  cases h with
  | pair h => exact .pair (pair_skipSpace_iff.mpr h)
  | table hpath hlength => exact .table hpath hlength
  | tables hpath hlength => exact .tables hpath hlength

theorem lineEnd?_keys (h : ∃ c ∈ (skipSpace text).head?, isBare c ∨ c = '"' ∨ c = '\'') :
    lineEnd? text = none := by
  obtain ⟨c, hc, hkey⟩ := h
  obtain ⟨after, hafter⟩ := List.head?_eq_some_iff.mp hc
  have hmark : c ≠ '#' ∧ c ≠ '\n' ∧ c ≠ '\r' := by
    refine ⟨?_, ?_, ?_⟩
    all_goals
      rintro rfl
      revert hkey
      decide
  have hcomment : skipComment (c :: after) = c :: after := by
    unfold skipComment
    split
    · next heq => exact absurd (List.cons.inj heq).1 hmark.1
    · rfl
  rw [lineEnd?, hafter, hcomment]
  refine newline?_eq_none_iff.mpr fun rest hn => ?_
  cases hn
  · exact hmark.2.1 rfl
  · exact hmark.2.2 rfl

theorem Stated.not_lineEnd (h : Stated statement text rest) (hhead : text.head? ≠ some '[') :
    lineEnd? text = none := by
  cases h with
  | pair h =>
    obtain ⟨hpath⟩ := h
    exact lineEnd?_keys hpath.head
  | table | tables => exact absurd rfl hhead

theorem Line.read {line : Option Statement} (h : Line line text rest) :
    line? text = some (line, rest) := by
  unfold line?
  cases h with
  | blank h =>
    have hread := h.read
    rw [← lineEnd?_skipSpace] at hread
    split
    · next heq =>
      rw [heq] at hread
      cases hread
    · rw [hread]
  | stated hs h hend =>
    have hstated := h.skipSpace
    rw [← skipSpace_of_spaces hs] at hstated
    split
    · next heq =>
      rw [heq] at hstated
      rw [header?_read hstated]
      simp only [Option.bind_eq_bind, Option.bind_some, hend.read]
    · next hne =>
      have hbracket : (Toml.skipSpace text).head? ≠ some '[' := fun hc => by
        obtain ⟨after, hafter⟩ := List.head?_eq_some_iff.mp hc
        exact hne after hafter
      rw [hstated.not_lineEnd hbracket, assignment?_read hstated hbracket hend.ends]
      simp only [Option.bind_eq_bind, Option.bind_some, hend.read]

@[grind →]
theorem Stated.length_lt (h : Stated statement text rest) : rest.length < text.length := by
  cases h with
  | pair h => exact h.length_lt (value?_reads depthLimit)
  | table hpath | tables hpath => grind

theorem lines?_line {fuel : Nat} {line : Option Statement} (h : Line line text rest)
    (htext : text ≠ []) :
    lines? (fuel + 1) text = (lines? fuel rest).map (line.toList ++ ·) := by
  rw [lines?, h.read]
  · simp only [Option.bind_eq_bind, Option.bind_some]
    cases lines? fuel rest <;> rfl
  · exact htext

theorem states_nil {statements : List Statement} (h : States statements []) : statements = [] := by
  cases h with
  | blank => rfl
  | blankLine | last | line => grind

theorem lines?_nil (fuel : Nat) : lines? fuel [] = some [] := by
  cases fuel <;> rfl

theorem states_line {line : Option Statement} {statements : List Statement}
    (h : Line line text rest) (hs : States statements rest) :
    States (line.toList ++ statements) text := by
  cases h with
  | blank h =>
    cases h with
    | last h =>
      obtain rfl := states_nil hs
      exact .blank h
    | newline h hn => exact .blankLine h hn hs
  | stated hspaces h hend =>
    cases hend with
    | last hend =>
      obtain rfl := states_nil hs
      exact .last hspaces h hend
    | newline hend hn => exact .line hspaces h hend hn hs

theorem states_of_lines? {fuel : Nat} {statements : List Statement}
    (h : lines? fuel text = some statements) : States statements text := by
  induction fuel generalizing text statements with
  | zero =>
    cases text with
    | nil =>
      cases h
      exact .blank (.space (Skips.refl _ _))
    | cons => cases h
  | succ fuel ih =>
    cases text with
    | nil =>
      cases h
      exact .blank (.space (Skips.refl _ _))
    | cons c text =>
      obtain ⟨⟨line, rest⟩, hline, h⟩ := Option.bind_eq_some_iff.mp h
      obtain ⟨statements, hstatements, h⟩ := Option.bind_eq_some_iff.mp h
      cases h
      exact states_line (line_of_read hline) (ih hstatements)

theorem States.read {fuel : Nat} {statements : List Statement} (h : States statements text)
    (hfuel : text.length < fuel) : lines? fuel text = some statements := by
  have hne {text rest : Text} (h : rest.length < text.length) : text ≠ [] := by
    rintro rfl
    exact Nat.not_lt_zero _ h
  induction h generalizing fuel with
  | @blank text h =>
    by_cases htext : text = []
    · rw [htext, lines?_nil]
    · obtain ⟨fuel, rfl⟩ := Nat.exists_eq_succ_of_ne_zero (Nat.ne_zero_of_lt hfuel)
      rw [lines?_line (.blank (.last h)) htext, lines?_nil]
      rfl
  | @blankLine statements text middle rest h hn _ ih =>
    have hlength : rest.length < text.length := by grind
    obtain ⟨fuel, rfl⟩ := Nat.exists_eq_succ_of_ne_zero (Nat.ne_zero_of_lt hfuel)
    rw [lines?_line (.blank (.newline h hn)) (hne hlength), ih (by omega)]
    rfl
  | @last statement text start stop hs h hend =>
    have hlength : stop.length < text.length := by grind
    obtain ⟨fuel, rfl⟩ := Nat.exists_eq_succ_of_ne_zero (Nat.ne_zero_of_lt hfuel)
    rw [lines?_line (.stated hs h (.last hend)) (hne hlength), lines?_nil]
    rfl
  | @line statement statements text start stop middle rest hs h hend hn _ ih =>
    have hlength : rest.length < text.length := by grind
    obtain ⟨fuel, rfl⟩ := Nat.exists_eq_succ_of_ne_zero (Nat.ne_zero_of_lt hfuel)
    rw [lines?_line (.stated hs h (.newline hend hn)) (hne hlength), ih (by omega)]
    rfl

theorem States.head_ne {statements : List Statement} (h : States statements text) :
    text.head? ≠ some '\uFEFF' := by
  intro hmark
  obtain ⟨rest, rfl⟩ := List.head?_eq_some_iff.mp hmark
  have hread := h.read (Nat.lt_succ_self _)
  have hnone (fuel : Nat) : lines? (fuel + 1) ('\uFEFF' :: rest) = none := rfl
  cases (hnone _).symm.trans hread

theorem body_eq (h : text.head? ≠ some '\uFEFF') : body text = text := by
  unfold body
  split
  · exact absurd rfl h
  · rfl

/-- The statements that are read are those that the text spells. -/
theorem statements?_eq_some_iff {statements : List Statement} :
    statements? text = some statements ↔ States statements (body text) := by
  have hlines : statements? text = lines? ((body text).length + 1) (body text) := by
    unfold statements?
    split
    · rfl
    · next hmark =>
      rw [body]
      exact hmark
  rw [hlines]
  exact ⟨states_of_lines?, fun h => h.read (Nat.lt_succ_self _)⟩

end ManifestNotice.Toml.Grammar
