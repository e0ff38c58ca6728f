import Mathlib.Data.List.TakeWhile
import ManifestNotice.Proofs.Toml.Grammar

/-!
# Strings and keys, read

The readers of strings and keys take what the grammar spells and nothing else:
an equation for each that stops by itself (`basic?_eq_some_iff`), and for those
on several lines one way each, since what follows must not be a quote.
-/

namespace ManifestNotice.Toml.Grammar

open Json.Grammar (Skips Leaves skips_dropWhile skips_cons leaves_dropWhile dropWhile_eq_iff
  takeWhile_append_eq)

variable {text rest digits s name : List Char} {c : Char}

-- ---------------------------------------------------------------------------
-- Line breaks
-- ---------------------------------------------------------------------------

theorem newline?_eq_some_iff : newline? text = some rest ↔ Newline text rest := by
  constructor
  · intro h
    unfold newline? at h
    split at h <;> cases h
    · exact .feed
    · exact .both
  · rintro (_ | _) <;> rfl

theorem newline?_eq_none_iff : newline? text = none ↔ ∀ rest, ¬ Newline text rest := by
  simp [← newline?_eq_some_iff, Option.eq_none_iff_forall_ne_some]

-- ---------------------------------------------------------------------------
-- Escapes
-- ---------------------------------------------------------------------------

theorem toNat_ofNat {n : Nat} (h : n.isValidChar) : (Char.ofNat n).toNat = n := by
  unfold Char.ofNat
  rw [dif_pos h]
  rfl

/-- The digits are read one by one, unless one of them is none. -/
theorem mapM_hexDigit? (digits : List Char) : digits.mapM Text.hexDigit? =
    if digits.all isHexDigit then some (digits.map fun d => (Text.hexDigit? d).getD 0)
    else none := by
  induction digits with
  | nil => rfl
  | cons d digits ih =>
    rw [List.mapM_cons, ih, List.all_cons]
    cases hd : Text.hexDigit? d with
    | none => simp [isHexDigit, hd]
    | some value =>
      have hhex : isHexDigit d = true := by rw [isHexDigit, hd]; rfl
      rw [hhex, Bool.true_and, List.map_cons, hd]
      cases digits.all isHexDigit <;> rfl

theorem scalar?_eq_some_iff : scalar? digits = some c ↔ Numbers digits c := by
  have hvalue : (digits.map fun d => (Text.hexDigit? d).getD 0).foldl (fun n d => 16 * n + d) 0 =
      valueOf 16 digits := List.foldl_map
  rw [scalar?, mapM_hexDigit?, Numbers, ← List.all_eq_true]
  by_cases hall : digits.all isHexDigit
  · rw [if_pos hall, Option.bind_eq_bind, Option.bind_some]
    simp only [hvalue]
    constructor
    · intro h
      split at h
      · next hvalid =>
        cases h
        exact ⟨hall, (toNat_ofNat hvalid).symm⟩
      · cases h
    · rintro ⟨-, hn⟩
      rw [hn, if_pos (show c.toNat.isValidChar from c.valid), Char.ofNat_toNat]
  · rw [if_neg hall]
    exact ⟨nofun, fun h => absurd h.1 hall⟩

theorem shortEscape?_eq (c : Char) : shortEscape? c = letters.lookup c := by
  unfold shortEscape?
  split <;> try rfl
  refine (List.lookup_eq_none_iff.mpr ?_).symm
  simp only [letters, List.forall_mem_cons]
  simp_all

theorem ne_of_isBasic (h : isBasic c) : c ≠ '"' ∧ c ≠ '\\' := by
  simp only [isBasic, Bool.and_eq_true, bne_iff_ne] at h
  exact ⟨h.1.2, h.2⟩

theorem basic?_plain (h : isBasic c) : basic? (c :: rest) = push c (basic? rest) := by
  obtain ⟨hq, hs⟩ := ne_of_isBasic h
  rw [basic?.eq_def]
  split <;> simp_all

theorem basic?_letter {e : Char} (h : letters.lookup e = some c) :
    basic? ('\\' :: e :: rest) = push c (basic? rest) := by
  rw [← shortEscape?_eq] at h
  have hu : e ≠ 'u' := by rintro rfl; cases h
  have hlong : e ≠ 'U' := by rintro rfl; cases h
  simp [basic?, hu, hlong, h]

theorem exists_of_length_four (h : digits.length = 4) : ∃ a b c d, digits = [a, b, c, d] := by
  match digits, h with
  | [a, b, c, d], _ => exact ⟨a, b, c, d, rfl⟩

theorem exists_of_length_eight (h : digits.length = 8) :
    ∃ a b c d e f g i, digits = [a, b, c, d, e, f, g, i] := by
  match digits, h with
  | [a, b, c, d, e, f, g, i], _ => exact ⟨a, b, c, d, e, f, g, i, rfl⟩

theorem basic?_four (hl : digits.length = 4) (h : Numbers digits c) :
    basic? ('\\' :: 'u' :: (digits ++ rest)) = push c (basic? rest) := by
  obtain ⟨_, _, _, _, rfl⟩ := exists_of_length_four hl
  simp [basic?, scalar?_eq_some_iff.mpr h]

theorem basic?_eight (hl : digits.length = 8) (h : Numbers digits c) :
    basic? ('\\' :: 'U' :: (digits ++ rest)) = push c (basic? rest) := by
  obtain ⟨_, _, _, _, _, _, _, _, rfl⟩ := exists_of_length_eight hl
  simp [basic?, scalar?_eq_some_iff.mpr h]

theorem push_eq_some_iff {result : Option (List Char × Text)} : push c result = some (s, rest) ↔
    ∃ t, result = some (t, rest) ∧ s = c :: t := by
  cases result with
  | none => simp [push]
  | some result =>
    simp only [push, Option.map_some, Option.some.injEq, Prod.mk.injEq]
    grind

theorem Basic.read (h : Basic s text rest) : basic? text = some (s, rest) := by
  induction h with
  | done => rfl
  | next hc _ ih =>
    cases hc with
    | plain hc => rw [basic?_plain hc, ih]; rfl
    | letter hc => rw [basic?_letter hc, ih]; rfl
    | four hl hc => rw [basic?_four hl hc, ih]; rfl
    | eight hl hc => rw [basic?_eight hl hc, ih]; rfl

theorem basic_of_read (h : basic? text = some (s, rest)) : Basic s text rest := by
  fun_induction basic? text generalizing s with
  | case1 => cases h
  | case2 rest => cases h; exact .done
  | case3 a b c d text ih =>
    obtain ⟨e, he, h⟩ := Option.bind_eq_some_iff.mp h
    obtain ⟨t, ht, rfl⟩ := push_eq_some_iff.mp h
    have hc := @Spelled.four [a, b, c, d] e text rfl (scalar?_eq_some_iff.mp he)
    exact .next hc (ih ht)
  | case4 a b c d e f g i text ih =>
    obtain ⟨o, ho, h⟩ := Option.bind_eq_some_iff.mp h
    obtain ⟨t, ht, rfl⟩ := push_eq_some_iff.mp h
    have hc := @Spelled.eight [a, b, c, d, e, f, g, i] o text rfl (scalar?_eq_some_iff.mp ho)
    exact .next hc (ih ht)
  | case5 e text _ _ ih =>
    obtain ⟨c, hc, h⟩ := Option.bind_eq_some_iff.mp h
    obtain ⟨t, ht, rfl⟩ := push_eq_some_iff.mp h
    rw [shortEscape?_eq] at hc
    exact .next (.letter hc) (ih ht)
  | case6 c text _ _ _ _ hc ih =>
    obtain ⟨t, ht, rfl⟩ := push_eq_some_iff.mp h
    exact .next (.plain hc) (ih ht)
  | case7 => cases h

theorem basic?_eq_some_iff : basic? text = some (s, rest) ↔ Basic s text rest :=
  ⟨basic_of_read, Basic.read⟩

theorem literal?_eq_some_iff : literal? text = some (s, rest) ↔ Literal s text rest := by
  unfold literal?
  constructor
  · intro h
    split at h
    · next after hd =>
      cases h
      have hall : ∀ c ∈ text.takeWhile isLiteral, isLiteral c := fun c hc =>
        List.mem_takeWhile_imp hc
      have hsplit := List.takeWhile_append_dropWhile (p := isLiteral) (l := text)
      rw [hd] at hsplit
      generalize text.takeWhile isLiteral = s at hall hsplit ⊢
      rw [← hsplit]
      exact .intro hall
    · cases h
  · rintro ⟨hs⟩
    have hquote : isLiteral '\'' = false := rfl
    rw [List.dropWhile_append_of_pos hs, List.takeWhile_append_of_pos hs]
    simp [hquote]

-- ---------------------------------------------------------------------------
-- Strings on several lines
-- ---------------------------------------------------------------------------

/-- The three quotes that end a string take two more with them if they can. -/
theorem closing_replicate {quote : Char} {n : Nat} (hn : n ≤ 2) (hr : rest.head? ≠ some quote) :
    closing quote (List.replicate n quote ++ rest) = (List.replicate n quote, rest) := by
  have hne : ∀ c after, rest = c :: after → (c == quote) = false := by
    rintro c after rfl
    simpa using hr
  match n, hn with
  | 0, _ =>
    match rest with
    | [] => rfl
    | [c] => simp [closing, hne c [] rfl]
    | c :: d :: after => simp [closing, hne c _ rfl]
  | 1, _ =>
    match rest with
    | [] => simp [closing]
    | c :: after => simp [closing, hne c after rfl]
  | 2, _ => simp [closing]

theorem exists_closing (quote : Char) (text : Text) : ∃ n ≤ 2,
    (closing quote text).1 = List.replicate n quote ∧
      text = List.replicate n quote ++ (closing quote text).2 := by
  unfold closing
  split
  · split
    · next h =>
      simp only [Bool.and_eq_true, beq_iff_eq] at h
      exact ⟨2, le_rfl, rfl, by simp [h]⟩
    · split
      · next h => exact ⟨1, by decide, rfl, by simp [beq_iff_eq.mp h]⟩
      · exact ⟨0, by decide, rfl, rfl⟩
  · split
    · next h => exact ⟨1, by decide, rfl, by simp [beq_iff_eq.mp h]⟩
    · exact ⟨0, by decide, rfl, rfl⟩
  · exact ⟨0, by decide, rfl, rfl⟩

section
variable {quote : Char} {part : List Char → Text → Text → Prop} {t middle : List Char}

theorem lines_closing (quote : Char) (part : List Char → Text → Text → Prop) (text : Text) :
    Lines quote part (closing quote text).1 (quote :: quote :: quote :: text)
      (closing quote text).2 := by
  obtain ⟨n, hn, hs, ht⟩ := exists_closing quote text
  have hclose : Lines quote part (List.replicate n quote) _ (closing quote text).2 := .close hn
  rw [hs]
  convert hclose using 1
  -- the quotes stand in front of the three instead of behind them
  generalize (closing quote text).2 = rest at ht
  subst ht
  match n, hn with
  | 0, _ => rfl
  | 1, _ => rfl
  | 2, _ => rfl

theorem Lines.cons_part (hp : part s text middle) (h : Lines quote part t middle rest) :
    Lines quote part (s ++ t) text rest := Lines.next (Nat.zero_le 2) hp h

/-- One more quote in front, where it is not the first of three. -/
theorem Lines.cons_quote (h : Lines quote part s text rest)
    (hthree : ∀ after, text ≠ quote :: quote :: after) :
    Lines quote part (quote :: s) (quote :: text) rest := by
  cases h with
  | @close n rest hn =>
    match n, hn with
    | 0, _ => exact absurd rfl (hthree _)
    | 1, _ => exact absurd rfl (hthree _)
    | 2, _ => exact absurd rfl (hthree _)
  | @next n s t text middle rest hn hp h =>
    match n, hn with
    | 0, _ => exact @Lines.next quote _ 1 s t text middle rest (by decide) hp h
    | 1, _ => exact @Lines.next quote _ 2 s t text middle rest le_rfl hp h
    | 2, _ => exact absurd rfl (hthree _)

structure ReadsLines (quote : Char)
    (part : List Char → Text → Text → Prop) (reader : Text → Option (List Char × Text)) : Prop where
  close (text : Text) : reader (quote :: quote :: quote :: text) = some (closing quote text)
  step {text : Text} : (∀ after, text ≠ quote :: quote :: after) →
    reader (quote :: text) = push quote (reader text)
  pass {s text middle : List Char} : part s text middle →
    reader text = (reader middle).map fun (t, rest) => (s ++ t, rest)
  head {s text middle : List Char} : part s text middle → text.head? ≠ some quote

theorem ReadsLines.complete {reader : Text → Option (List Char × Text)}
    (hreader : ReadsLines quote part reader) (h : Lines quote part s text rest)
    (hrest : rest.head? ≠ some quote) : reader text = some (s, rest) := by
  induction h with
  | @close n rest hn =>
    have hshift : List.replicate n quote ++ quote :: quote :: quote :: rest =
        quote :: quote :: quote :: (List.replicate n quote ++ rest) := by
      match n, hn with
      | 0, _ => rfl
      | 1, _ => rfl
      | 2, _ => rfl
    rw [hshift, hreader.close, closing_replicate hn hrest]
  | @next n s t text middle rest hn hp _ ih =>
    have hhead := hreader.head hp
    have hpart : reader text = some (s ++ t, rest) := by
      rw [hreader.pass hp, ih hrest]
      rfl
    have hone : ∀ after, text ≠ quote :: quote :: after := by
      rintro after rfl
      exact hhead rfl
    have htwo : ∀ after, quote :: text ≠ quote :: quote :: after := by
      intro after h
      rw [List.cons_inj_right] at h
      rw [h] at hhead
      exact hhead rfl
    match n, hn with
    | 0, _ => exact hpart
    | 1, _ =>
      show reader (quote :: text) = some (quote :: (s ++ t), rest)
      rw [hreader.step hone, hpart]
      rfl
    | 2, _ =>
      show reader (quote :: quote :: text) = some (quote :: quote :: (s ++ t), rest)
      rw [hreader.step htwo, hreader.step hone, hpart]
      rfl

end

theorem not_isPlain_break (h : isPlain c) : c ≠ '\n' ∧ c ≠ '\r' := by
  refine ⟨?_, ?_⟩ <;>
  · rintro rfl
    revert h
    decide

theorem isLiteral_iff : isLiteral c ↔ isPlain c ∧ c ≠ '\'' := by
  simp [isLiteral]

theorem literalLines?_reads : ReadsLines '\'' LiteralPart literalLines? where
  close text := by simp [literalLines?]
  step hthree := by
    rw [literalLines?]
    · rfl
    · exact fun after _ h => hthree after h
    · exact fun _ h => absurd h (by decide)
    · decide
  pass h := by
    cases h with
    | @char c rest hc =>
      obtain ⟨hplain, hquote⟩ := isLiteral_iff.mp hc
      obtain ⟨hfeed, hreturn⟩ := not_isPlain_break hplain
      rw [literalLines?]
      · rw [if_pos hplain]
        rfl
      · exact fun _ h => absurd h hquote
      · exact fun _ h => absurd h hreturn
      · exact hfeed
    | line h => cases h <;> rw [literalLines?] <;> rfl
  head h := by
    cases h with
    | char hc => simpa using (isLiteral_iff.mp hc).2
    | line h => cases h <;> simp

theorem lines_of_literalLines? (h : literalLines? text = some (s, rest)) :
    Lines '\'' LiteralPart s text rest := by
  fun_induction literalLines? text generalizing s with
  | case1 => cases h
  | case2 text =>
    have := Option.some.inj h
    have hclosed := lines_closing '\'' LiteralPart text
    rwa [this] at hclosed
  | case3 text ih =>
    obtain ⟨t, ht, rfl⟩ := push_eq_some_iff.mp h
    exact (ih ht).cons_part (.line .both)
  | case4 text ih =>
    obtain ⟨t, ht, rfl⟩ := push_eq_some_iff.mp h
    exact (ih ht).cons_part (.line .feed)
  | case5 c text hthree _ _ hc ih =>
    obtain ⟨t, ht, rfl⟩ := push_eq_some_iff.mp h
    by_cases hq : c = '\''
    · subst hq
      exact (ih ht).cons_quote fun after h => hthree after rfl h
    · exact (ih ht).cons_part (.char (isLiteral_iff.mpr ⟨hc, hq⟩))
  | case6 => cases h

theorem isSpace_iff : isSpace c ↔ c = ' ' ∨ c = '\t' := by
  simp [isSpace]

theorem basicLines?_space {gap : Toml.Gap} (hg : (gap != .none) = true) (hc : isSpace c) :
    basicLines? gap (c :: text) = basicLines? gap text := by
  rw [basicLines?.eq_def]
  split
  · next h => cases h
  · next h =>
    cases h
    cases hc
  · next h =>
    cases h
    cases hc
  · next heq =>
    cases heq
    rw [if_pos (by rw [hg, hc]; rfl)]

theorem basicLines?_newline {gap : Toml.Gap} (hg : (gap == .none) = false)
    (h : Newline text rest) : basicLines? gap text = basicLines? .crossed rest := by
  rw [basicLines?.eq_def]
  cases h with
  | feed => exact if_neg (by simp [hg])
  | both => exact if_neg (by simp [hg])

theorem basicLines?_over (hs : Leaves isSpace text) (hn : ∀ rest, ¬ Newline text rest) :
    basicLines? .crossed text = basicLines? .none text := by
  rw [basicLines?.eq_def, basicLines?.eq_def .none]
  split
  · rfl
  · exact absurd .both (hn _)
  · exact absurd .feed (hn _)
  · next c text _ _ =>
    have hspace : isSpace c = false := hs c rfl
    have hover (gap : Toml.Gap) : ¬ (gap != .none && isSpace c) := by simp [hspace]
    rw [if_neg (hover _), if_neg (by decide), if_neg (hover _), if_neg (by decide)]

theorem Gap.read (h : Gap text rest) : basicLines? .crossed text = basicLines? .none rest := by
  induction h with
  | done hs hn => exact basicLines?_over hs hn
  | space hc _ ih => rw [basicLines?_space rfl hc, ih]
  | line hn _ ih => rw [basicLines?_newline rfl hn, ih]

theorem basicLines?_opened {middle after : List Char} (hs : Spaces text middle)
    (hn : Newline middle after) : basicLines? .opened text = basicLines? .crossed after := by
  obtain ⟨run, rfl, hrun⟩ := hs
  induction run with
  | nil => exact basicLines?_newline rfl hn
  | cons c run ih =>
    obtain ⟨hc, hrun⟩ := List.forall_mem_cons.mp hrun
    rw [List.cons_append, basicLines?_space rfl hc, ih hrun]

@[simp] theorem gap_none_bne : (Toml.Gap.none != Toml.Gap.none) = false := rfl

@[simp] theorem gap_none_beq : (Toml.Gap.none == Toml.Gap.opened) = false := rfl

theorem basicLines?_plain (h : isBasic c) :
    basicLines? .none (c :: rest) = push c (basicLines? .none rest) := by
  obtain ⟨hq, hs⟩ := ne_of_isBasic h
  rw [basicLines?.eq_def]
  split
  · next h => cases h
  · next heq => cases heq; cases h
  · next heq => cases heq; cases h
  · next heq =>
    cases heq
    rw [if_neg (by simp), if_neg (by simp)]
    split <;> simp_all

theorem basicLines?_letter {e : Char} (h : letters.lookup e = some c) :
    basicLines? .none ('\\' :: e :: rest) = push c (basicLines? .none rest) := by
  rw [← shortEscape?_eq] at h
  have hu : e ≠ 'u' := by rintro rfl; cases h
  have hlong : e ≠ 'U' := by rintro rfl; cases h
  rw [basicLines?.eq_def]
  simp [hu, hlong, h]

theorem basicLines?_four (hl : digits.length = 4) (h : Numbers digits c) :
    basicLines? .none ('\\' :: 'u' :: (digits ++ rest)) = push c (basicLines? .none rest) := by
  obtain ⟨_, _, _, _, rfl⟩ := exists_of_length_four hl
  rw [basicLines?.eq_def]
  simp [scalar?_eq_some_iff.mpr h]

theorem basicLines?_eight (hl : digits.length = 8) (h : Numbers digits c) :
    basicLines? .none ('\\' :: 'U' :: (digits ++ rest)) = push c (basicLines? .none rest) := by
  obtain ⟨_, _, _, _, _, _, _, _, rfl⟩ := exists_of_length_eight hl
  rw [basicLines?.eq_def]
  simp [scalar?_eq_some_iff.mpr h]

theorem Spelled.pass (h : Spelled c text rest) :
    basicLines? .none text = push c (basicLines? .none rest) := by
  cases h with
  | plain hc => exact basicLines?_plain hc
  | letter hc => exact basicLines?_letter hc
  | four hl hc => exact basicLines?_four hl hc
  | eight hl hc => exact basicLines?_eight hl hc

theorem basicLines?_joined {middle after : List Char} (hs : Spaces text middle)
    (hn : Newline middle after) :
    basicLines? .none ('\\' :: text) = basicLines? .crossed after := by
  obtain ⟨run, rfl, hrun⟩ := hs
  match run, hrun with
  | [], _ =>
    rw [basicLines?.eq_def]
    cases hn <;> rfl
  | c :: run, hrun =>
    obtain ⟨hc, hrun⟩ := List.forall_mem_cons.mp hrun
    rw [← basicLines?_opened ⟨run, rfl, hrun⟩ hn, basicLines?.eq_def]
    rcases isSpace_iff.mp hc with rfl | rfl <;> rfl

theorem basicLines?_reads : ReadsLines '"' BasicPart (basicLines? .none) where
  close text := by
    rw [basicLines?.eq_def]
    rfl
  step {text} hthree := by
    rw [basicLines?.eq_def]
    simp only [gap_none_bne, gap_none_beq, Bool.false_and, Bool.false_eq_true, if_false]
    split
    · next heq => cases heq
    · next heq => cases heq
    · next heq => cases heq
    · next heq =>
      cases heq
      split
      · next heq _ => exact absurd rfl (hthree _)
      · rfl
      all_goals simp_all
  pass h := by
    cases h with
    | char hc => exact hc.pass
    | line hn => cases hn <;> rw [basicLines?.eq_def] <;> rfl
    | joined hs hn hg =>
      rw [basicLines?_joined hs hn, hg.read]
      exact Option.map_id'.symm
  head h := by
    cases h with
    | char hc =>
      cases hc with
      | plain hc => simpa using (ne_of_isBasic hc).1
      | letter | four | eight => simp
    | line h => cases h <;> simp
    | joined => simp

/-- A string on several lines as it goes on inside a gap, or outside. -/
inductive Resumes : Toml.Gap → List Char → Text → Text → Prop
  | inside {s text rest : List Char} : Lines '"' BasicPart s text rest → Resumes .none s text rest
  | crossed {s text middle rest : List Char} : Gap text middle → Lines '"' BasicPart s middle rest →
      Resumes .crossed s text rest
  | opened {s text middle after next rest : List Char} : Spaces text middle → Newline middle after →
      Gap after next → Lines '"' BasicPart s next rest → Resumes .opened s text rest

theorem Resumes.lines (h : Resumes .none s text rest) : Lines '"' BasicPart s text rest := by
  cases h
  assumption

theorem Resumes.newline {gap : Toml.Gap} {middle : List Char} (hgap : ¬ (gap == .none) = true)
    (hn : Newline text middle) (h : Resumes .crossed s middle rest) : Resumes gap s text rest := by
  obtain _ | ⟨hg, hl⟩ | _ := h
  match gap with
  | .none => exact absurd rfl hgap
  | .crossed => exact .crossed (.line hn hg) hl
  | .opened => exact .opened (Skips.refl _ _) hn hg hl

theorem Resumes.space {gap : Toml.Gap} (hgap : (gap != .none) = true) (hc : isSpace c)
    (h : Resumes gap s text rest) : Resumes gap s (c :: text) rest := by
  cases h with
  | inside => cases hgap
  | crossed hg hl => exact .crossed (.space hc hg) hl
  | opened hs hn hg hl => exact .opened (skips_cons hc hs) hn hg hl

theorem Resumes.feed {gap : Toml.Gap} (hgap : (gap == .none) = true)
    (h : Lines '"' BasicPart s text rest) : Resumes gap s text rest := by
  match gap with
  | .none => exact .inside h

theorem Lines.joined {middle after next : List Char} (hs : Spaces text middle)
    (hn : Newline middle after) (hg : Gap after next) (h : Lines '"' BasicPart s next rest) :
    Lines '"' BasicPart s ('\\' :: text) rest := by
  have hpart : Lines '"' BasicPart ([] ++ s) ('\\' :: text) rest :=
    h.cons_part (.joined hs hn hg)
  exact hpart

theorem Resumes.over {gap : Toml.Gap} (hopened : ¬ (gap == .opened) = true)
    (hspace : ¬ (gap != .none && isSpace c) = true) (hn : ∀ after, ¬ Newline (c :: text) after)
    (h : Lines '"' BasicPart s (c :: text) rest) : Resumes gap s (c :: text) rest := by
  match gap with
  | .none => exact .inside h
  | .crossed =>
    refine .crossed (.done ?_ hn) h
    rintro d ⟨⟩
    simpa [show (Toml.Gap.crossed != .none) = true from rfl] using hspace
  | .opened => exact absurd rfl hopened

theorem not_newline_cons (hfeed : c ≠ '\n')
    (hreturn : ∀ rest, c = '\r' → text = '\n' :: rest → False) (after : Text) :
    ¬ Newline (c :: text) after := by
  rintro (_ | _)
  · exact hfeed rfl
  · exact hreturn _ rfl rfl

theorem resumes_of_basicLines? {gap : Toml.Gap} (h : basicLines? gap text = some (s, rest)) :
    Resumes gap s text rest := by
  fun_induction basicLines? gap text generalizing s with
  | case1 | case7 | case16 | case18 => cases h
  | case2 gap text hgap ih =>
    obtain ⟨t, ht, rfl⟩ := push_eq_some_iff.mp h
    exact .feed hgap ((ih ht).lines.cons_part (.line .both))
  | case3 gap text hgap ih => exact (ih h).newline hgap .both
  | case4 gap text hgap ih =>
    obtain ⟨t, ht, rfl⟩ := push_eq_some_iff.mp h
    exact .feed hgap ((ih ht).lines.cons_part (.line .feed))
  | case5 gap text hgap ih => exact (ih h).newline hgap .feed
  | case6 gap c text _ _ hc ih =>
    obtain ⟨hgap, hc⟩ := Bool.and_eq_true_iff.mp hc
    exact (ih h).space hgap hc
  | case8 gap hopened text _ hspace =>
    have := Option.some.inj h
    have hclosed := lines_closing '"' BasicPart text
    rw [this] at hclosed
    exact .over hopened hspace nofun hclosed
  | case9 gap hopened text hthree _ hspace _ ih =>
    obtain ⟨t, ht, rfl⟩ := push_eq_some_iff.mp h
    exact .over hopened hspace nofun ((ih ht).lines.cons_quote hthree)
  | case10 gap hopened a b c d text _ hspace _ ih =>
    obtain ⟨e, he, h⟩ := Option.bind_eq_some_iff.mp h
    obtain ⟨t, ht, rfl⟩ := push_eq_some_iff.mp h
    have hpart := @Spelled.four [a, b, c, d] e text rfl (scalar?_eq_some_iff.mp he)
    exact .over hopened hspace nofun ((ih ht).lines.cons_part (.char hpart))
  | case11 gap hopened a b c d e f g i text _ hspace _ ih =>
    obtain ⟨o, ho, h⟩ := Option.bind_eq_some_iff.mp h
    obtain ⟨t, ht, rfl⟩ := push_eq_some_iff.mp h
    have hpart := @Spelled.eight [a, b, c, d, e, f, g, i] o text rfl (scalar?_eq_some_iff.mp ho)
    exact .over hopened hspace nofun ((ih ht).lines.cons_part (.char hpart))
  | case12 gap hopened e text _ _ c hc _ hspace _ ih =>
    obtain ⟨t, ht, rfl⟩ := push_eq_some_iff.mp h
    rw [shortEscape?_eq] at hc
    exact .over hopened hspace nofun ((ih ht).lines.cons_part (.char (.letter hc)))
  | case13 gap hopened c text _ _ _ hc _ hspace _ ih =>
    obtain _ | _ | ⟨hs, hn, hg, hl⟩ := ih h
    exact .over hopened hspace nofun (.joined (skips_cons hc hs) hn hg hl)
  | case14 gap hopened c text _ _ _ _ hc _ hspace _ ih =>
    obtain _ | ⟨hg, hl⟩ | _ := ih h
    rw [beq_iff_eq.mp hc]
    exact .over hopened hspace nofun (.joined (Skips.refl _ _) .feed hg hl)
  | case15 gap hopened text _ hspace _ _ _ _ _ _ ih =>
    obtain _ | ⟨hg, hl⟩ | _ := ih h
    exact .over hopened hspace nofun (.joined (Skips.refl _ _) .both hg hl)
  | case17 gap hopened c text _ _ _ _ _ hc hfeed hspace hreturn ih =>
    obtain ⟨t, ht, rfl⟩ := push_eq_some_iff.mp h
    exact .over hopened hspace (not_newline_cons hfeed hreturn)
      ((ih ht).lines.cons_part (.char (.plain hc)))

theorem lines_of_basicLines? (h : basicLines? .none text = some (s, rest)) :
    Lines '"' BasicPart s text rest := (resumes_of_basicLines? h).lines

theorem opening_trimNewline (text : Text) : Opening text (trimNewline text) := by
  unfold trimNewline
  cases h : newline? text with
  | none => exact .whole (newline?_eq_none_iff.mp h)
  | some rest => exact .trimmed (newline?_eq_some_iff.mp h)

theorem Opening.trimNewline_eq (h : Opening text rest) : trimNewline text = rest := by
  unfold trimNewline
  cases h with
  | trimmed h => rw [newline?_eq_some_iff.mpr h]; rfl
  | whole h => rw [newline?_eq_none_iff.mpr h]; rfl

theorem quoted_of_string? (h : string? text = some (s, rest)) : Quoted s text rest := by
  unfold string? at h
  split at h
  · exact .basicLines (opening_trimNewline _) (lines_of_basicLines? h)
  · exact .basic (basic?_eq_some_iff.mp h)
  · exact .literalLines (opening_trimNewline _) (lines_of_literalLines? h)
  · exact .literal (literal?_eq_some_iff.mp h)
  · cases h

/-- What begins with two quotes more is not on one line, unless a quote follows. -/
theorem Basic.not_three (h : Basic s text rest) (hrest : rest.head? ≠ some '"') (after : Text) :
    text ≠ '"' :: '"' :: after := by
  rintro rfl
  cases h with
  | done => exact hrest rfl
  | next hc =>
    cases hc with
    | plain hc => exact (ne_of_isBasic hc).1 rfl

theorem Literal.not_three (h : Literal s text rest) (hrest : rest.head? ≠ some '\'')
    (after : Text) : text ≠ '\'' :: '\'' :: after := by
  intro htext
  obtain ⟨hs⟩ := h
  match s, hs with
  | [], _ =>
    cases htext
    exact hrest rfl
  | c :: s, hs =>
    obtain rfl : c = '\'' := (List.cons.inj htext).1
    exact absurd (hs '\'' List.mem_cons_self) (by decide)

theorem Quoted.read (h : Quoted s text rest) (hdouble : rest.head? ≠ some '"')
    (hsingle : rest.head? ≠ some '\'') : string? text = some (s, rest) := by
  cases h with
  | basic h =>
    rw [string?.eq_2 _ (h.not_three hdouble)]
    exact basic?_eq_some_iff.mpr h
  | literal h =>
    rw [string?.eq_4 _ (h.not_three hsingle)]
    exact literal?_eq_some_iff.mpr h
  | basicLines ho h =>
    rw [string?, ho.trimNewline_eq]
    exact basicLines?_reads.complete h hdouble
  | literalLines ho h =>
    rw [string?, ho.trimNewline_eq]
    exact literalLines?_reads.complete h hsingle

-- ---------------------------------------------------------------------------
-- Keys
-- ---------------------------------------------------------------------------

theorem simpleKey_of_read {key : Key} (h : simpleKey? text = some (key, rest)) :
    SimpleKey key.name text rest ∧ key.span = ⟨text.length, rest.length⟩ := by
  unfold simpleKey? at h
  split at h
  · obtain ⟨_, hname, h⟩ := Option.bind_eq_some_iff.mp h
    cases h
    exact ⟨.basic (basic?_eq_some_iff.mp hname), rfl⟩
  · obtain ⟨_, hname, h⟩ := Option.bind_eq_some_iff.mp h
    cases h
    exact ⟨.literal (literal?_eq_some_iff.mp hname), rfl⟩
  · dsimp only at h
    split at h
    · cases h
    · next hname =>
      cases h
      have hbare : ∀ c ∈ text.takeWhile isBare, isBare c := fun _ hc => List.mem_takeWhile_imp hc
      have hkey := SimpleKey.bare (by simpa using hname) hbare (leaves_dropWhile isBare text)
      rw [List.takeWhile_append_dropWhile] at hkey
      exact ⟨hkey, rfl⟩

theorem isBare_sound (h : isBare c) : isSpace c = false ∧ c ≠ '"' ∧ c ≠ '\'' := by
  refine ⟨Bool.eq_false_iff.mpr fun hs => ?_, ?_, ?_⟩
  · rcases isSpace_iff.mp hs with rfl | rfl <;> revert h <;> decide
  all_goals
    rintro rfl
    revert h
    decide

theorem SimpleKey.read (h : SimpleKey name text rest) :
    simpleKey? text = some (⟨name, ⟨text.length, rest.length⟩⟩, rest) := by
  cases h with
  | bare hname hbare hleaves =>
    have hspan : (name ++ rest).dropWhile isBare = rest :=
      dropWhile_eq_iff.mpr ⟨⟨name, rfl, hbare⟩, hleaves⟩
    have htake := takeWhile_append_eq hbare hleaves
    obtain ⟨c, name, rfl⟩ := List.exists_cons_of_ne_nil hname
    obtain ⟨-, hdouble, hsingle⟩ := isBare_sound (hbare c List.mem_cons_self)
    unfold simpleKey?
    split
    · next heq => exact absurd (List.cons.inj heq).1 hdouble
    · next heq => exact absurd (List.cons.inj heq).1 hsingle
    · simp only [htake, hspan]
      rfl
  | basic h => simp [simpleKey?, basic?_eq_some_iff.mpr h]
  | literal h => simp [simpleKey?, literal?_eq_some_iff.mpr h]

theorem SimpleKey.leaves (h : SimpleKey name text rest) : Leaves isSpace text := by
  cases h with
  | bare hname hbare hleaves =>
    obtain ⟨c, name, rfl⟩ := List.exists_cons_of_ne_nil hname
    exact .of_cons (isBare_sound (hbare c List.mem_cons_self)).1 _
  | basic h => exact .of_cons rfl _
  | literal h => exact .of_cons rfl _

theorem path_of_keys? {fuel : Nat} {keys : List Key} (h : keys? fuel text = some (keys, rest)) :
    Path keys text rest ∧ keys.length ≤ fuel := by
  induction fuel generalizing text keys with
  | zero => cases h
  | succ fuel ih =>
    unfold keys? at h
    obtain ⟨⟨key, after⟩, hkey, h⟩ := Option.bind_eq_some_iff.mp h
    obtain ⟨hname, hspan⟩ := simpleKey_of_read hkey
    obtain ⟨name, span⟩ := key
    cases hspan
    have hstop := skips_dropWhile isSpace after
    dsimp only at h
    split at h
    · next middle hdot =>
      obtain ⟨⟨keys, last⟩, hkeys, h⟩ := Option.bind_eq_some_iff.mp h
      cases h
      obtain ⟨hpath, hlength⟩ := ih hkeys
      rw [← skipSpace, hdot] at hstop
      exact ⟨.more (skips_dropWhile _ _) hname hstop hpath, Nat.succ_le_succ hlength⟩
    · cases h
      exact ⟨.last (skips_dropWhile _ _) hname hstop, by simp⟩

theorem skipSpace_eq (hs : Spaces text rest) (hl : Leaves isSpace rest) : skipSpace text = rest :=
  dropWhile_eq_iff.mpr ⟨hs, hl⟩

theorem Path.read {fuel : Nat} {keys : List Key} (h : Path keys text rest)
    (hlength : keys.length ≤ fuel) (hspace : Leaves isSpace rest) (hdot : rest.head? ≠ some '.') :
    keys? fuel text = some (keys, rest) := by
  induction h generalizing fuel with
  | last hs hname hstop =>
    obtain ⟨fuel, rfl⟩ := Nat.exists_eq_succ_of_ne_zero (Nat.ne_of_gt hlength)
    rw [keys?, skipSpace_eq hs hname.leaves, hname.read]
    simp only [Option.bind_eq_bind, Option.bind_some, skipSpace_eq hstop hspace]
    split
    · exact absurd rfl hdot
    · rfl
  | more hs hname hstop hpath ih =>
    obtain ⟨fuel, rfl⟩ := Nat.exists_eq_succ_of_ne_zero (Nat.ne_of_gt (Nat.zero_lt_of_lt hlength))
    rw [keys?, skipSpace_eq hs hname.leaves, hname.read]
    simp only [Option.bind_eq_bind, Option.bind_some, skipSpace_eq hstop (.of_cons rfl _)]
    rw [ih (Nat.le_of_succ_le_succ hlength) hspace hdot]
    rfl


end ManifestNotice.Toml.Grammar
