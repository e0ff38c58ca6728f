import ManifestNotice.Json.Skip
import ManifestNotice.Proofs.Json.Numeral

/-!
# Skipped values

A value is skipped where the text has the form of one (`forms_of_skip`,
`Forms.skip`). The loops over items and over members are the same but for what
stands between two commas, so they are taken as one that is told which it is.
-/

namespace ManifestNotice.Json.Grammar

variable {named : Bool} {fuel : Nat}

-- ---------------------------------------------------------------------------
-- What forms begin with, and how long they are
-- ---------------------------------------------------------------------------

theorem Forms.value_head (h : Forms .value text rest) : ∃ c after, text = c :: after ∧ starts c := by
  cases h with
  | number hn => exact hn.head_starts
  | _ => exact ⟨_, _, rfl, by decide⟩

theorem Forms.skipBlanks_eq (h : Forms .value start rest) (hs : Spaces text start) :
    skipBlanks text = start := by
  obtain ⟨c, after, rfl, hc⟩ := h.value_head
  exact skipBlanks_starts hs hc

theorem Forms.entry_head (h : Forms (.entry named) text rest) :
    ∃ c after, Spaces text (c :: after) ∧ starts c := by
  cases h with
  | item hs hv =>
    obtain ⟨c, after, rfl, hc⟩ := hv.value_head
    exact ⟨c, after, hs, hc⟩
  | member hs => exact ⟨_, _, hs, by decide⟩

theorem Forms.several_head (h : Forms (.several named) text rest) :
    ∃ c after, Spaces text (c :: after) ∧ starts c := by
  cases h with
  | last h => exact h.entry_head
  | more h => exact h.entry_head

theorem Skips.length_le {p : Char → Bool} (h : Skips p text rest) : rest.length ≤ text.length := by
  obtain ⟨run, rfl, -⟩ := h
  simp

theorem CodeUnit.length_le (h : CodeUnit n text rest) : rest.length ≤ text.length := by
  cases h
  simp only [List.length_cons]
  omega

theorem Formed.length_le (h : Formed text rest) : rest.length ≤ text.length := by
  cases h with
  | plain => simp
  | letter => simp only [List.length_cons]; omega
  | unit hunit =>
    have := hunit.length_le
    simp only [List.length_cons]
    omega

theorem Enclosed.length_le (h : Enclosed text rest) : rest.length ≤ text.length := by
  induction h with
  | done => simp
  | next hc _ ih => exact Nat.le_trans ih hc.length_le

theorem Number.length_le (h : Number n text rest) : rest.length ≤ text.length := by
  obtain ⟨-, part, last, -, -, rfl⟩ := h
  simp only [List.length_append]
  omega

theorem behind_key_lt (hs : Spaces text ('"' :: quoted)) (hq : Enclosed quoted behind)
    (hcolon : Spaces behind (':' :: after)) : after.length < text.length := by
  have := hs.length_le
  have := hq.length_le
  have := hcolon.length_le
  simp only [List.length_cons] at *
  omega

theorem Forms.length_le (h : Forms shape text rest) : rest.length ≤ text.length := by
  induction h with
  | null | true | false => simp only [List.length_cons]; omega
  | number hn => exact hn.length_le
  | string hq =>
    have := hq.length_le
    simp only [List.length_cons]
    omega
  | array _ ih | object _ ih =>
    simp only [List.length_cons] at ih ⊢
    omega
  | item hs _ ih =>
    have := hs.length_le
    omega
  | member hs hq hcolon hafter _ ih =>
    have := behind_key_lt hs hq hcolon
    have := hafter.length_le
    omega
  | last _ hs ih =>
    have := hs.length_le
    omega
  | more _ hs _ ih ihs =>
    have := hs.length_le
    simp only [List.length_cons] at this
    omega
  | none hs => exact hs.length_le
  | some _ ih => exact ih

-- ---------------------------------------------------------------------------
-- Words, numerals and colons
-- ---------------------------------------------------------------------------

theorem skipWord_eq_ok_iff : skipWord run text = .ok rest ↔ text = run ++ rest := by
  induction run generalizing text with
  | nil =>
    rw [skipWord, Except.ok.injEq]
    rfl
  | cons c run ih =>
    cases text with
    | nil => exact ⟨nofun, nofun⟩
    | cons d text =>
      rw [skipWord, List.cons_append, List.cons.injEq]
      split
      · next heq => rw [ih, and_iff_right (beq_iff_eq.mp heq).symm]
      · next hne => exact ⟨nofun, fun h => absurd (beq_iff_eq.mpr h.1.symm) hne⟩

theorem number_of_skipNumeral (h : skipNumeral text = .ok rest) (negative : Bool) :
    ∃ n, Number n (minus negative ++ text) rest := by
  obtain ⟨⟨n, _⟩, hread, rfl⟩ := map_eq_ok_iff.mp h
  obtain ⟨hn, hnumber⟩ := number_of_read hread
  rw [← hn] at hnumber
  exact ⟨_, hnumber.signed negative⟩

theorem Number.skip (h : Number n (minus n.negative ++ text) rest) (hs : Stops rest) :
    skipNumeral text = .ok rest :=
  map_eq_ok_iff.mpr ⟨_, (h.signed false).read hs, rfl⟩

theorem skipColon_eq_ok_iff : skipColon text = .ok rest ↔ Spaces text (':' :: rest) := by
  constructor
  · intro h
    unfold skipColon at h
    split at h
    · next hcolon =>
      cases h
      rw [← hcolon]
      exact spaces_skipBlanks text
    all_goals cases h
  · intro h
    rw [skipColon, skipBlanks_eq h (.of_cons rfl _)]
    rfl

-- ---------------------------------------------------------------------------
-- Items and members
-- ---------------------------------------------------------------------------

def opening : Bool → Char
  | false => '['
  | true => '\x7b'

def closing : Bool → Char
  | false => ']'
  | true => '\x7d'

theorem closes_closing (named : Bool) : closes (closing named) := by
  cases named <;> rfl

theorem isSpace_closing (named : Bool) : isSpace (closing named) = false :=
  isSpace_of_follows (.inr (closes_closing named))

theorem ne_closing_of_starts (hc : starts c) (named : Bool) : c ≠ closing named := by
  rintro rfl
  exact absurd (closes_closing named) (Bool.eq_false_iff.mp (closes_of_starts hc))

def skipMember (fuel : Nat) (text : List Char) : Except Fault (List Char) :=
  match skipBlanks text with
  | '"' :: rest => Quoted.skip rest >>= skipColon >>= skipValue fuel
  | [] => .error (.within .objectEnds [])
  | rest => .error (.within .keyExpected rest)

theorem skipMember_quote (hfront : skipBlanks text = '"' :: quoted) :
    skipMember fuel text = Quoted.skip quoted >>= skipColon >>= skipValue fuel := by
  rw [skipMember, hfront]
  rfl

def skipEntry : Bool → Nat → List Char → Except Fault (List Char)
  | false => skipValue
  | true => skipMember

def skipEntries : Bool → Nat → List Char → Except Fault (List Char)
  | false => skipItems
  | true => skipMembers

/-- The causes of a fault where a list has no end, or goes on with neither a comma
nor its end. -/
def endless : Bool → Cause
  | false => .listEnds
  | true => .objectEnds

def disjoint : Bool → Cause
  | false => .commaOrBracketExpected
  | true => .commaOrBraceExpected

theorem skipEntries_succ (named : Bool) (fuel : Nat) (text : List Char) :
    skipEntries named (fuel + 1) text =
      match skipEntry named fuel text with
      | .error fault => .error fault
      | .ok behind =>
        match skipBlanks behind with
        | [] => .error (.within (endless named) [])
        | c :: rest =>
          if c = closing named then .ok rest
          else if c = ',' then skipEntries named fuel rest
          else .error (.within (disjoint named) (c :: rest)) := by
  cases named with
  | false =>
    rw [skipEntries, skipItems, skipEntry]
    cases skipValue fuel text with
    | error => rfl
    | ok behind =>
      dsimp only
      generalize skipBlanks behind = after
      split
      · rfl
      · rfl
      · rfl
      · next hclose hcomma hnil =>
        cases after <;> simp_all [closing, disjoint]
  | true =>
    rw [skipEntries, skipMembers, skipEntry]
    split
    · next quoted hfront =>
      rw [skipMember_quote hfront]
      cases Quoted.skip quoted >>= skipColon >>= skipValue fuel with
      | error => rfl
      | ok behind =>
        dsimp only
        generalize skipBlanks behind = after
        split
        · rfl
        · rfl
        · rfl
        · next hclose hcomma hnil =>
          cases after <;> simp_all [closing, disjoint]
    · next hfront => rw [skipMember, hfront]
    · simp_all [skipMember]

theorem skipEntries_last (h : skipEntry named fuel text = .ok behind)
    (hs : Spaces behind (closing named :: rest)) :
    skipEntries named (fuel + 1) text = .ok rest := by
  rw [skipEntries_succ, h]
  dsimp only
  rw [skipBlanks_eq hs (.of_cons (isSpace_closing named) _)]
  exact if_pos rfl

theorem skipEntries_more (h : skipEntry named fuel text = .ok behind)
    (hs : Spaces behind (',' :: after)) :
    skipEntries named (fuel + 1) text = skipEntries named fuel after := by
  have hcomma : ',' ≠ closing named := by cases named <;> decide
  rw [skipEntries_succ, h]
  dsimp only
  rw [skipBlanks_eq hs (.of_cons rfl _)]
  exact (if_neg hcomma).trans (if_pos rfl)

theorem skipEntries_cases (h : skipEntries named (fuel + 1) text = .ok rest) :
    ∃ behind, skipEntry named fuel text = .ok behind ∧
      (Spaces behind (closing named :: rest) ∨
        ∃ after, Spaces behind (',' :: after) ∧ skipEntries named fuel after = .ok rest) := by
  rw [skipEntries_succ] at h
  split at h
  · cases h
  · next behind hbehind =>
    have hs := spaces_skipBlanks behind
    refine ⟨behind, hbehind, ?_⟩
    split at h
    · cases h
    · next hfront =>
      rw [hfront] at hs
      split at h
      · next hc =>
        cases h
        rw [hc] at hs
        exact .inl hs
      · split at h
        · next hc =>
          rw [hc] at hs
          exact .inr ⟨_, hs, h⟩
        · cases h

-- ---------------------------------------------------------------------------
-- Values
-- ---------------------------------------------------------------------------

theorem skipValue_digit (hc : c.isDigit) (hfront : skipBlanks front = c :: text) :
    skipValue (fuel + 1) front = skipNumeral (c :: text) := by
  rw [skipValue, hfront]
  split <;> simp_all

theorem skipValue_opening (hfront : skipBlanks front = opening named :: text) :
    skipValue (fuel + 1) front =
      match skipBlanks text with
      | [] => .error (.within (endless named) [])
      | c :: rest =>
        if c = closing named then .ok rest else skipEntries named fuel (c :: rest) := by
  cases named with
  | false =>
    simp only [skipValue, hfront, opening]
    generalize skipBlanks text = after
    split
    · rfl
    · rfl
    · cases after <;> simp_all [closing, skipEntries]
  | true =>
    simp only [skipValue, hfront, opening]
    generalize skipBlanks text = after
    split
    · rfl
    · rfl
    · cases after <;> simp_all [closing, skipEntries]

-- ---------------------------------------------------------------------------
-- Only forms are skipped
-- ---------------------------------------------------------------------------

theorem Forms.several_of_spaces (hs : Spaces text start) (h : Forms (.several named) start rest) :
    Forms (.several named) text rest := by
  have hentry {behind} (h : Forms (.entry named) start behind) : Forms (.entry named) text behind := by
    cases h with
    | item hs' hv => exact .item (hs.trans hs') hv
    | member hs' hq hcolon hafter hv => exact .member (hs.trans hs') hq hcolon hafter hv
  cases h with
  | last h hclose => exact .last (hentry h) hclose
  | more h hcomma hl => exact .more (hentry h) hcomma hl

theorem forms_of_opening (h : Forms (.entries named) text (closing named :: rest)) :
    Forms .value (opening named :: text) rest := by
  cases named with
  | false => exact .array h
  | true => exact .object h

def SkipsForms (fuel : Nat) : Prop :=
  ∀ {text rest}, skipValue fuel text = .ok rest → ∃ start, Spaces text start ∧ Forms .value start rest

theorem forms_of_skipEntry (hv : SkipsForms fuel) (h : skipEntry named fuel text = .ok rest) :
    Forms (.entry named) text rest := by
  cases named with
  | false =>
    obtain ⟨start, hs, hform⟩ := hv h
    exact .item hs hform
  | true =>
    rw [skipEntry, skipMember] at h
    split at h
    · next quoted hquote =>
      obtain ⟨after, h, hvalue⟩ := bind_eq_ok_iff.mp h
      obtain ⟨behind, hskip, hcolon⟩ := bind_eq_ok_iff.mp h
      obtain ⟨start, hs, hform⟩ := hv hvalue
      have hfront := spaces_skipBlanks text
      rw [hquote] at hfront
      exact .member hfront (skip_eq_ok_iff.mp hskip) (skipColon_eq_ok_iff.mp hcolon) hs hform
    all_goals cases h

theorem forms_of_skipEntries (hv : ∀ less < fuel, SkipsForms less)
    (h : skipEntries named fuel text = .ok rest) :
    Forms (.several named) text (closing named :: rest) := by
  induction fuel generalizing text with
  | zero => cases named <;> cases h
  | succ fuel ih =>
    obtain ⟨behind, hentry, hnext⟩ := skipEntries_cases h
    have hform := forms_of_skipEntry (hv fuel (Nat.lt_succ_self _)) hentry
    rcases hnext with hclose | ⟨after, hcomma, hrest⟩
    · exact .last hform hclose
    · exact .more hform hcomma (ih (fun less hless => hv less (Nat.lt_succ_of_lt hless)) hrest)

theorem forms_of_list (hv : ∀ less < fuel + 1, SkipsForms less)
    (hfront : skipBlanks text = opening named :: after)
    (h : skipValue (fuel + 1) text = .ok rest) : Forms .value (opening named :: after) rest := by
  rw [skipValue_opening hfront] at h
  have hs := spaces_skipBlanks after
  split at h
  · cases h
  · next c behind hafter =>
    rw [hafter] at hs
    split at h
    · next hc =>
      cases h
      rw [hc] at hs
      exact forms_of_opening (.none hs)
    · have hl := forms_of_skipEntries (fun less hless => hv less (Nat.lt_succ_of_lt hless)) h
      exact forms_of_opening (.some (hl.several_of_spaces hs))

theorem forms_of_skipValue (fuel : Nat) : SkipsForms fuel := by
  induction fuel using Nat.strong_induction_on with
  | h fuel ih =>
    intro text rest h
    cases fuel with
    | zero => cases h
    | succ fuel =>
      refine ⟨_, spaces_skipBlanks text, ?_⟩
      have hskip := h
      rw [skipValue] at hskip
      split at hskip
      · cases hskip
      · next hfront =>
        rw [hfront, skipWord_eq_ok_iff.mp hskip]
        exact .null
      · next hfront =>
        rw [hfront, skipWord_eq_ok_iff.mp hskip]
        exact .true
      · next hfront =>
        rw [hfront, skipWord_eq_ok_iff.mp hskip]
        exact .false
      · next hfront =>
        obtain ⟨n, hnumber⟩ := number_of_skipNumeral hskip true
        rw [hfront]
        exact .number hnumber
      · next hfront =>
        rw [hfront]
        exact .string (skip_eq_ok_iff.mp hskip)
      · next after hfront =>
        have hopen : skipBlanks text = opening false :: after := hfront
        rw [hopen]
        exact forms_of_list ih hopen h
      · next after hfront =>
        have hopen : skipBlanks text = opening true :: after := hfront
        rw [hopen]
        exact forms_of_list ih hopen h
      · next hfront =>
        split at hskip
        · obtain ⟨n, hnumber⟩ := number_of_skipNumeral hskip false
          rw [hfront]
          exact .number hnumber
        · cases hskip

theorem forms_of_skip (h : skip text = .ok rest) : ∃ start, Spaces text start ∧ Forms .value start rest :=
  forms_of_skipValue _ h

-- ---------------------------------------------------------------------------
-- All forms are skipped
-- ---------------------------------------------------------------------------

/-- How a shape is skipped. Blanks in front make no difference. -/
def Skipped (shape : Shape) (text rest : List Char) : Prop :=
  ∀ {front fuel}, match shape with
    | .value => Stops rest → skipBlanks front = text → 2 * front.length ≤ fuel →
        skipValue (fuel + 1) front = .ok rest
    | .entry named => Stops rest → skipBlanks front = skipBlanks text → 2 * front.length ≤ fuel →
        skipEntry named (fuel + 1) front = .ok rest
    | .several named => ∀ {after}, rest = closing named :: after →
        skipBlanks front = skipBlanks text → 2 * front.length < fuel →
        skipEntries named (fuel + 1) front = .ok after
    | .entries named => ∀ {after}, rest = closing named :: after →
        skipBlanks front = opening named :: text → 2 * front.length ≤ fuel →
        skipValue (fuel + 1) front = .ok after

theorem Number.skipped (h : Number n text rest) : Skipped .value text rest := by
  intro front fuel hs hfront hfuel
  obtain ⟨c, after, rfl, hc⟩ := h.digit
  cases hn : n.negative with
  | true =>
    rw [hn] at hfront
    rw [skipValue, hfront]
    exact h.skip hs
  | false =>
    rw [hn] at hfront
    rw [skipValue_digit hc hfront]
    exact h.skip hs

theorem Forms.skipped (h : Forms shape text rest) : Skipped shape text rest := by
  induction h with
  | null | true | false =>
    intro front fuel hs hfront hfuel
    rw [skipValue, hfront]
    exact skipWord_eq_ok_iff.mpr rfl
  | number hn => exact hn.skipped
  | string hq =>
    intro front fuel hs hfront hfuel
    rw [skipValue, hfront]
    exact hq.skip
  | array _ ih | object _ ih =>
    intro front fuel hs hfront hfuel
    exact ih rfl hfront hfuel
  | item hs hv ih =>
    intro front fuel hstops hfront hfuel
    rw [hv.skipBlanks_eq hs] at hfront
    exact ih hstops hfront hfuel
  | @member text quoted behind after start rest hs hq hcolon hafter hv ih =>
    intro front fuel hstops hfront hfuel
    rw [Grammar.skipBlanks_eq hs (.of_cons rfl _)] at hfront
    have hopen := spaces_skipBlanks front
    rw [hfront] at hopen
    have hlength := behind_key_lt hopen hq hcolon
    rw [skipEntry, skipMember_quote hfront, hq.skip]
    dsimp only [bind, Except.bind]
    rw [skipColon_eq_ok_iff.mpr hcolon]
    exact ih hstops (hv.skipBlanks_eq hafter) (by omega)
  | last h hs ih =>
    intro front fuel after hclose hfront hfuel
    obtain ⟨fuel, rfl⟩ := Nat.exists_eq_add_one_of_ne_zero (Nat.ne_zero_of_lt hfuel)
    subst hclose
    have hstops := stops_of_spaces hs (.inr (closes_closing _))
    exact skipEntries_last (ih hstops hfront (Nat.le_of_lt_succ hfuel)) hs
  | @more named text behind after rest h hs hl ih ihl =>
    intro front fuel last hclose hfront hfuel
    obtain ⟨fuel, rfl⟩ := Nat.exists_eq_add_one_of_ne_zero (Nat.ne_zero_of_lt hfuel)
    have hentry : skipEntry named (fuel + 1) front = .ok behind :=
      ih (stops_of_spaces hs (.inl rfl)) hfront (Nat.le_of_lt_succ hfuel)
    have hlength := (forms_of_skipEntry (forms_of_skipValue _) hentry).length_le
    have hbehind := hs.length_le
    rw [List.length_cons] at hbehind
    rw [skipEntries_more hentry hs]
    exact ihl hclose rfl (by omega)
  | none hs =>
    intro front fuel after hclose hfront hfuel
    subst hclose
    rw [skipValue_opening hfront, Grammar.skipBlanks_eq hs (.of_cons (isSpace_closing _) _)]
    exact if_pos rfl
  | @some named text rest h ih =>
    intro front fuel after hclose hfront hfuel
    obtain ⟨c, behind, hs, hc⟩ := h.several_head
    have hblanks := skipBlanks_starts hs hc
    have hlength : (c :: behind).length < front.length := by
      have := (spaces_skipBlanks front).length_le
      rw [hfront, List.length_cons] at this
      have := hs.length_le
      omega
    obtain ⟨fuel, rfl⟩ : ∃ less, fuel = less + 1 := Nat.exists_eq_add_one_of_ne_zero (by omega)
    rw [skipValue_opening hfront, hblanks]
    refine (if_neg (ne_closing_of_starts hc named)).trans (ih hclose ?_ (by omega))
    rw [hblanks]
    exact skipBlanks_starts (.refl _ _) hc

theorem Forms.skip (h : Forms .value start rest) (hs : Spaces text start) (hstops : Stops rest) :
    Json.skip text = .ok rest :=
  h.skipped hstops (h.skipBlanks_eq hs) (Nat.le_refl _)

end ManifestNotice.Json.Grammar
