import ManifestNotice.Proofs.Toml.Document

/-!
# What stands behind

A text that spells something goes on to do so whatever is put behind it, if only
something was behind the keys: `Stated.append` says it of statements. Positions
count from the end of the text, and move with it.
-/

namespace ManifestNotice.Toml

def Span.moved (n : Nat) (span : Span) : Span := ⟨span.opened + n, span.closed + n⟩

def Key.moved (n : Nat) (key : Key) : Key := ⟨key.name, key.span.moved n⟩

def Statement.moved (n : Nat) : Statement → Statement
  | .pair path key value span => .pair (path.map (·.moved n)) (key.moved n) value (span.moved n)
  | .table path key span => .table (path.map (·.moved n)) (key.moved n) (span.moved n)
  | .tables path key span => .tables (path.map (·.moved n)) (key.moved n) (span.moved n)

namespace Grammar

open Json.Grammar (Skips Leaves)

variable {text rest s ds : List Char} {c : Char} {p : Char → Bool} {negative : Bool}

-- ---------------------------------------------------------------------------
-- Space and lines
-- ---------------------------------------------------------------------------

theorem skips_append (h : Skips p text rest) (more : Text) :
    Skips p (text ++ more) (rest ++ more) := by
  obtain ⟨run, rfl, hrun⟩ := h
  exact ⟨run, List.append_assoc .., hrun⟩

theorem leaves_append (h : Leaves p text) (htext : text ≠ []) (more : Text) :
    Leaves p (text ++ more) := by
  obtain ⟨c, text, rfl⟩ := List.exists_cons_of_ne_nil htext
  exact h

theorem Newline.append (h : Newline text rest) (more : Text) :
    Newline (text ++ more) (rest ++ more) := by
  cases h
  · exact .feed
  · exact .both

/-- Two characters say whether there is a line break. -/
theorem not_newline_append (h : ∀ after, ¬ Newline text after) (htext : 2 ≤ text.length)
    (more after : Text) : ¬ Newline (text ++ more) after := by
  match text with
  | c :: d :: text =>
    intro hn
    cases hn with
    | feed => exact h _ .feed
    | both => exact h _ .both

theorem Comment.append (h : Comment text rest) (more : Text) :
    Comment (text ++ more) (rest ++ more) := by
  obtain ⟨h⟩ := h
  exact .intro (skips_append h more)

theorem Trail.append (h : Trail text rest) (more : Text) :
    Trail (text ++ more) (rest ++ more) := by
  cases h with
  | space hs => exact .space (skips_append hs more)
  | comment hs hc => exact .comment (skips_append hs more) (hc.append more)

theorem Blank.append (h : Blank text rest) (more : Text) :
    Blank (text ++ more) (rest ++ more) := by
  induction h with
  | refl => exact .refl
  | space hc _ ih => exact .space hc ih
  | line hn _ ih => exact .line (hn.append more) ih
  | comment hc hn _ ih => exact .comment (hc.append more) (hn.append more) ih

-- ---------------------------------------------------------------------------
-- Strings
-- ---------------------------------------------------------------------------

theorem Spelled.append (h : Spelled c text rest) (more : Text) :
    Spelled c (text ++ more) (rest ++ more) := by
  cases h with
  | plain hc => exact .plain hc
  | letter hc => exact .letter hc
  | @four digits _ _ hl hc =>
    rw [List.cons_append, List.cons_append, List.append_assoc]
    exact .four hl hc
  | @eight digits _ _ hl hc =>
    rw [List.cons_append, List.cons_append, List.append_assoc]
    exact .eight hl hc

theorem Basic.append (h : Basic s text rest) (more : Text) :
    Basic s (text ++ more) (rest ++ more) := by
  induction h with
  | done => exact .done
  | next hc _ ih => exact .next (hc.append more) ih

theorem Literal.append (h : Literal s text rest) (more : Text) :
    Literal s (text ++ more) (rest ++ more) := by
  obtain ⟨hs⟩ := h
  rw [List.append_assoc]
  exact .intro hs

theorem Gap.append (h : Gap text rest) (hrest : 2 ≤ rest.length) (more : Text) :
    Gap (text ++ more) (rest ++ more) := by
  induction h with
  | done hs hn =>
    have hne := List.length_pos_iff.mp (Nat.lt_of_lt_of_le Nat.zero_lt_two hrest)
    exact .done (leaves_append hs hne more) (not_newline_append hn hrest more)
  | space hc _ ih => exact .space hc (ih hrest)
  | line hn _ ih => exact .line (hn.append more) (ih hrest)

theorem BasicPart.append (h : BasicPart s text rest) (hrest : 2 ≤ rest.length) (more : Text) :
    BasicPart s (text ++ more) (rest ++ more) := by
  cases h with
  | char hc => exact .char (hc.append more)
  | line hn => exact .line (hn.append more)
  | joined hs hn hg => exact .joined (skips_append hs more) (hn.append more) (hg.append hrest more)

theorem LiteralPart.append (h : LiteralPart s text rest) (more : Text) :
    LiteralPart s (text ++ more) (rest ++ more) := by
  cases h with
  | char hc => exact .char hc
  | line hn => exact .line (hn.append more)

section
variable {quote : Char} {part : List Char → Text → Text → Prop}

theorem Lines.three_le (hpart : ∀ s text rest, part s text rest → rest.length < text.length)
    (h : Lines quote part s text rest) : 3 ≤ text.length := by
  induction h with
  | close =>
    simp only [List.length_append, List.length_cons]
    omega
  | next _ hp _ ih =>
    have := hpart _ _ _ hp
    rw [List.length_append]
    omega

theorem Lines.append (hpart : ∀ s text rest, part s text rest → rest.length < text.length)
    (hp : ∀ s text rest more, part s text rest → 2 ≤ rest.length →
      part s (text ++ more) (rest ++ more))
    (h : Lines quote part s text rest) (more : Text) :
    Lines quote part s (text ++ more) (rest ++ more) := by
  induction h with
  | close hn =>
    rw [List.append_assoc]
    exact .close hn
  | next hn hfirst h ih =>
    have hlong := h.three_le hpart
    rw [List.append_assoc]
    exact .next hn (hp _ _ _ more hfirst (by omega)) ih

end

theorem Opening.append (h : Opening text rest) (hrest : 2 ≤ rest.length) (more : Text) :
    Opening (text ++ more) (rest ++ more) := by
  cases h with
  | trimmed hn => exact .trimmed (hn.append more)
  | whole hn => exact .whole (not_newline_append hn hrest more)

theorem Quoted.append (h : Quoted s text rest) (more : Text) :
    Quoted s (text ++ more) (rest ++ more) := by
  cases h with
  | basic h => exact .basic (h.append more)
  | literal h => exact .literal (h.append more)
  | basicLines ho h =>
    have hlong := h.three_le fun _ _ _ => BasicPart.length_lt
    refine .basicLines (ho.append (by omega) more) (h.append ?_ ?_ more)
    · exact fun _ _ _ => BasicPart.length_lt
    · exact fun _ _ _ more h hrest => h.append hrest more
  | literalLines ho h =>
    have hlong := h.three_le fun _ _ _ => LiteralPart.length_lt
    refine .literalLines (ho.append (by omega) more) (h.append ?_ ?_ more)
    · exact fun _ _ _ => LiteralPart.length_lt
    · exact fun _ _ _ more h _ => h.append more

-- ---------------------------------------------------------------------------
-- Keys
-- ---------------------------------------------------------------------------

theorem SimpleKey.append (h : SimpleKey s text rest) (hrest : rest ≠ []) (more : Text) :
    SimpleKey s (text ++ more) (rest ++ more) := by
  cases h with
  | bare hname hbare hleaves =>
    rw [List.append_assoc]
    exact .bare hname hbare (leaves_append hleaves hrest more)
  | basic h => exact .basic (h.append more)
  | literal h => exact .literal (h.append more)

theorem skips_ne_nil (h : Skips p text rest) (hrest : rest ≠ []) : text ≠ [] := by
  obtain ⟨run, rfl, -⟩ := h
  simp [hrest]

theorem moved_append (name start stop more : List Char) :
    (⟨name, ⟨(start ++ more).length, (stop ++ more).length⟩⟩ : Key) =
      Key.moved more.length ⟨name, ⟨start.length, stop.length⟩⟩ := by
  simp [Key.moved, Span.moved]

theorem Path.append {keys : List Key} (h : Path keys text rest) (hrest : rest ≠ []) (more : Text) :
    Path (keys.map (·.moved more.length)) (text ++ more) (rest ++ more) := by
  induction h with
  | last hs hname hstop =>
    rw [List.map_singleton, ← moved_append]
    exact .last (skips_append hs more) (hname.append (skips_ne_nil hstop hrest) more)
      (skips_append hstop more)
  | more hs hname hstop _ ih =>
    rw [List.map_cons, ← moved_append]
    exact .more (skips_append hs more) (hname.append (skips_ne_nil hstop (by simp)) more)
      (skips_append hstop more) (ih hrest)

-- ---------------------------------------------------------------------------
-- Numbers
-- ---------------------------------------------------------------------------

theorem Digits.append (h : Digits p ds text rest) (more : Text) :
    Digits p ds (text ++ more) (rest ++ more) := by
  induction h with
  | one hc => exact .one hc
  | more hc _ ih => exact .more hc ih
  | apart hc _ ih => exact .apart hc ih

theorem Sign.append (h : Sign negative text rest) (more : Text) :
    Sign negative (text ++ more) (rest ++ more) := by
  cases h with
  | none => exact .none
  | plus => exact .plus
  | minus => exact .minus

theorem Decimal.append (h : Decimal negative ds text rest) (more : Text) :
    Decimal negative ds (text ++ more) (rest ++ more) := by
  cases h with
  | zero hs => exact .zero (hs.append more)
  | digits hs hds hzero => exact .digits (hs.append more) (hds.append more) hzero

theorem Integer.append {n : Int} (h : Integer n text rest) (more : Text) :
    Integer n (text ++ more) (rest ++ more) := by
  cases h with
  | decimal h => exact .decimal (h.append more)
  | hexadecimal h => exact .hexadecimal (h.append more)
  | octal h => exact .octal (h.append more)
  | binary h => exact .binary (h.append more)

theorem Fraction.append (h : Fraction ds text rest) (more : Text) :
    Fraction ds (text ++ more) (rest ++ more) := by
  obtain ⟨h⟩ := h
  exact .intro (h.append more)

theorem Exponent.append {n : Int} (h : Exponent n text rest) (more : Text) :
    Exponent n (text ++ more) (rest ++ more) := by
  obtain ⟨hc, hs, h⟩ := h
  exact .intro hc (hs.append more) (h.append more)

theorem Float.append {x : Decimal.Binary64} (h : Float x text rest) (more : Text) :
    Float x (text ++ more) (rest ++ more) := by
  cases h with
  | fraction hw hf => exact .fraction (hw.append more) (hf.append more)
  | both hw hf he => exact .both (hw.append more) (hf.append more) (he.append more)
  | exponent hw he => exact .exponent (hw.append more) (he.append more)

theorem SpecialFloat.append {x : Decimal.Binary64} (h : SpecialFloat x text rest) (more : Text) :
    SpecialFloat x (text ++ more) (rest ++ more) := by
  cases h with
  | infinite hs => exact .infinite (hs.append more)
  | nan hs => exact .nan (hs.append more)

-- ---------------------------------------------------------------------------
-- Dates and times
-- ---------------------------------------------------------------------------

theorem Field.append {count low high n : Nat} (h : Field count low high n text rest)
    (more : Text) : Field count low high n (text ++ more) (rest ++ more) := by
  obtain ⟨hlength, hdigits, hlow, hhigh⟩ := h
  rw [List.append_assoc]
  exact .intro hlength hdigits hlow hhigh

theorem Date.append (h : Date text rest) (more : Text) : Date (text ++ more) (rest ++ more) := by
  obtain ⟨hyear, hmonth, hday⟩ := h
  exact .intro (hyear.append more) (hmonth.append more) (hday.append more)

theorem Clock.append (h : Clock text rest) (more : Text) :
    Clock (text ++ more) (rest ++ more) := by
  obtain ⟨hhour, hminute, hsecond⟩ := h
  exact .intro (hhour.append more) (hminute.append more) (hsecond.append more)

theorem Time.append (h : Time text rest) (more : Text) : Time (text ++ more) (rest ++ more) := by
  cases h with
  | whole h => exact .whole (h.append more)
  | places h hc hs => exact .places (h.append more) hc (skips_append hs more)

theorem Offset.append (h : Offset text rest) (more : Text) :
    Offset (text ++ more) (rest ++ more) := by
  cases h with
  | none hc => exact .none hc
  | hours hc hhour hminute => exact .hours hc (hhour.append more) (hminute.append more)

theorem Moment.append (h : Moment text rest) (more : Text) :
    Moment (text ++ more) (rest ++ more) := by
  cases h with
  | date h => exact .date (h.append more)
  | time h => exact .time (h.append more)
  | both hd hc ht => exact .both (hd.append more) hc (ht.append more)
  | placed hd hc ht ho => exact .placed (hd.append more) hc (ht.append more) (ho.append more)

-- ---------------------------------------------------------------------------
-- Values
-- ---------------------------------------------------------------------------

theorem Simple.append {v : Value} (h : Simple v text rest) (more : Text) :
    Simple v (text ++ more) (rest ++ more) := by
  cases h with
  | text h => exact .text (h.append more)
  | yes => exact .yes
  | no => exact .no
  | moment h => exact .moment (h.append more)
  | integer h hn => exact .integer (h.append more) hn
  | float h hx => exact .float (h.append more) hx
  | special h => exact .special (h.append more)

section
variable {value : Value → Text → Text → Prop} {keys : List Key} {v : Value} {span : Span}

/-- Spelled values stay so. -/
def Extends (value : Value → Text → Text → Prop) : Prop :=
  ∀ v text rest more, value v text rest → value v (text ++ more) (rest ++ more)

theorem Elements.append (hvalue : Extends value) (h : Elements value text rest) (more : Text) :
    Elements value (text ++ more) (rest ++ more) := by
  induction h with
  | close hb => exact .close (hb.append more)
  | last hstart hv hstop =>
    exact .last (hstart.append more) (hvalue _ _ _ more hv) (hstop.append more)
  | more hstart hv hstop _ ih =>
    exact .more (hstart.append more) (hvalue _ _ _ more hv) (hstop.append more) ih

theorem Pair.append (hvalue : Extends value) (h : Pair value keys v span text rest)
    (more : Text) : Pair value (keys.map (·.moved more.length)) v (span.moved more.length)
      (text ++ more) (rest ++ more) := by
  cases h with
  | intro hpath hlength hs hv =>
    have hpair := Pair.intro (hpath.append (by simp) more) (by rwa [List.length_map])
      (skips_append hs more) (hvalue _ _ _ more hv)
    rwa [List.length_append, List.length_append] at hpair

theorem names_moved (keys : List Key) (n : Nat) :
    names (keys.map (·.moved n)) = names keys := by
  simp [names, Key.moved, Function.comp_def]

theorem Pairs.append (hvalue : Extends value) {paths : List (List (List Char))}
    (h : Pairs value paths text rest) (more : Text) :
    Pairs value paths (text ++ more) (rest ++ more) := by
  induction h with
  | last hpair hs =>
    rw [← names_moved _ more.length]
    exact .last (hpair.append hvalue more) (skips_append hs more)
  | more hpair hs _ ih =>
    rw [← names_moved _ more.length]
    exact .more (hpair.append hvalue more) (skips_append hs more) ih

theorem InlineTable.append (hvalue : Extends value) (h : InlineTable value text rest)
    (more : Text) : InlineTable value (text ++ more) (rest ++ more) := by
  cases h with
  | empty hs => exact .empty (skips_append hs more)
  | pairs h hapart => exact .pairs (h.append hvalue more) hapart

theorem Compound.append (hvalue : Extends value) (h : Compound value v text rest) (more : Text) :
    Compound value v (text ++ more) (rest ++ more) := by
  cases h with
  | array h => exact .array (h.append hvalue more)
  | table h => exact .table (h.append hvalue more)

theorem nested_extends (depth : Nat) : Extends (Nested depth) := by
  induction depth with
  | zero => exact fun _ _ _ more h => Simple.append h more
  | succ depth ih =>
    rintro v text rest more (h | h)
    · exact .inl (h.append more)
    · exact .inr (h.append ih more)

end

-- ---------------------------------------------------------------------------
-- Statements
-- ---------------------------------------------------------------------------

theorem Stated.append {statement : Statement} (h : Stated statement text rest) (more : Text) :
    Stated (statement.moved more.length) (text ++ more) (rest ++ more) := by
  cases h with
  | pair h =>
    have hpair := h.append (nested_extends depthLimit) more
    rw [List.map_append, List.map_singleton] at hpair
    exact .pair hpair
  | @table path key text rest hpath hlength =>
    have hpath := hpath.append (by simp) more
    rw [List.map_append, List.map_singleton] at hpath
    have hstated := @Stated.table _ _ _ (rest ++ more) hpath (by rwa [List.length_map])
    rwa [List.length_append, List.length_append, Nat.add_right_comm] at hstated
  | @tables path key text rest hpath hlength =>
    have hpath := hpath.append (by simp) more
    rw [List.map_append, List.map_singleton] at hpath
    have hstated := @Stated.tables _ _ _ (rest ++ more) hpath (by rwa [List.length_map])
    rwa [List.length_append, List.length_append, Nat.add_right_comm] at hstated

end Grammar

end ManifestNotice.Toml
