import Mathlib.Data.List.TakeWhile
import ManifestNotice.Json

/-!
# The grammar of JSON

What a text stands for, by the grammar of RFC 8259 and on its own: no reader of
this library comes in. `Reads part text rest` says that the text starts with a
spelling of the part and goes on with the rest. A text stands for one value at
most (`IsText.unique`).
-/

namespace ManifestNotice.Json.Grammar

-- ---------------------------------------------------------------------------
-- Runs of characters
-- ---------------------------------------------------------------------------

/-- The text starts with characters of a class, any number of them, and goes on
with the rest. -/
def Skips (p : Char → Bool) (text rest : List Char) : Prop :=
  ∃ run, text = run ++ rest ∧ ∀ c ∈ run, p c

/-- The text does not start in the class. -/
def Leaves (p : Char → Bool) (text : List Char) : Prop := ∀ c ∈ text.head?, p c = false

theorem append_unique (p : Char → Bool) {a b x y : List Char} (ha : ∀ c ∈ a, p c)
    (hb : ∀ c ∈ b, p c) (hx : Leaves p x) (hy : Leaves p y) (h : a ++ x = b ++ y) :
    a = b ∧ x = y := by
  induction a generalizing b with
  | nil =>
    cases b with
    | nil => exact ⟨rfl, h⟩
    | cons c b =>
      rw [List.nil_append] at h
      have := hx c (by rw [h]; rfl)
      rw [hb c List.mem_cons_self] at this
      cases this
  | cons c a ih =>
    cases b with
    | nil =>
      rw [List.nil_append] at h
      have := hy c (by rw [← h]; rfl)
      rw [ha c List.mem_cons_self] at this
      cases this
    | cons d b =>
      rw [List.cons_append, List.cons_append] at h
      injection h with hhead htail
      obtain ⟨rfl, hxy⟩ := ih (fun c hc => ha c (List.mem_cons_of_mem _ hc))
        (fun c hc => hb c (List.mem_cons_of_mem _ hc)) htail
      exact ⟨by rw [hhead], hxy⟩

theorem Skips.unique {p : Char → Bool} (h : Skips p text a) (h' : Skips p text b) (ha : Leaves p a)
    (hb : Leaves p b) : a = b := by
  obtain ⟨x, rfl, hx⟩ := h
  obtain ⟨y, hxy, hy⟩ := h'
  exact (append_unique p hx hy ha hb hxy).2

theorem Skips.refl (p : Char → Bool) (text : List Char) : Skips p text text :=
  ⟨[], rfl, fun _ hc => absurd hc List.not_mem_nil⟩

theorem Skips.trans {p : Char → Bool} (h : Skips p text middle) (h' : Skips p middle rest) :
    Skips p text rest := by
  obtain ⟨x, rfl, hx⟩ := h
  obtain ⟨y, rfl, hy⟩ := h'
  exact ⟨x ++ y, (List.append_assoc ..).symm, List.forall_mem_append.mpr ⟨hx, hy⟩⟩

theorem skips_dropWhile (p : Char → Bool) (text : List Char) : Skips p text (text.dropWhile p) :=
  ⟨text.takeWhile p, List.takeWhile_append_dropWhile.symm, fun _ hc => List.mem_takeWhile_imp hc⟩

theorem skips_cons {p : Char → Bool} (hc : p c) (h : Skips p text rest) :
    Skips p (c :: text) rest := by
  obtain ⟨run, rfl, hrun⟩ := h
  exact ⟨c :: run, rfl, List.forall_mem_cons.mpr ⟨hc, hrun⟩⟩

theorem leaves_dropWhile (p : Char → Bool) (text : List Char) : Leaves p (text.dropWhile p) := by
  intro c hc
  have := List.head?_dropWhile_not p text
  rw [Option.mem_def.mp hc] at this
  simpa using this

theorem dropWhile_eq_iff {p : Char → Bool} :
    text.dropWhile p = rest ↔ Skips p text rest ∧ Leaves p rest := by
  constructor
  · rintro rfl
    exact ⟨skips_dropWhile p text, leaves_dropWhile p text⟩
  · rintro ⟨hs, hl⟩
    exact (skips_dropWhile p text).unique hs (leaves_dropWhile p text) hl

theorem takeWhile_append_eq {p : Char → Bool} {run : List Char} (hrun : ∀ c ∈ run, p c)
    (hl : Leaves p rest) : (run ++ rest).takeWhile p = run := by
  have hsplit := List.takeWhile_append_dropWhile (p := p) (l := run ++ rest)
  rw [dropWhile_eq_iff.mpr ⟨⟨run, rfl, hrun⟩, hl⟩] at hsplit
  exact List.append_cancel_right hsplit

def isSpace (c : Char) : Bool := c == ' ' || c == '\t' || c == '\n' || c == '\r'

abbrev Spaces := Skips isSpace

-- ---------------------------------------------------------------------------
-- Quoted texts
-- ---------------------------------------------------------------------------

def letters : List (Char × Char) :=
  [('"', '"'), ('\\', '\\'), ('/', '/'), ('b', Char.ofNat 0x08), ('f', Char.ofNat 0x0C),
   ('n', Char.ofNat 0x0A), ('r', Char.ofNat 0x0D), ('t', Char.ofNat 0x09)]

def digit? (c : Char) : Option Nat :=
  if '0' ≤ c ∧ c ≤ '9' then some (c.toNat - '0'.toNat)
  else if 'a' ≤ c ∧ c ≤ 'f' then some (c.toNat - 'a'.toNat + 10)
  else if 'A' ≤ c ∧ c ≤ 'F' then some (c.toNat - 'A'.toNat + 10)
  else none

inductive CodeUnit : Nat → List Char → List Char → Prop
  | intro {a b c d i j k l rest} : digit? a = some i → digit? b = some j → digit? c = some k →
      digit? d = some l →
      CodeUnit (i * 0x1000 + j * 0x100 + k * 0x10 + l) (a :: b :: c :: d :: rest) rest

theorem CodeUnit.unique (h : CodeUnit n text rest) (h' : CodeUnit m text rest') :
    n = m ∧ rest = rest' := by
  cases h with
  | intro ha hb hc hd =>
    cases h' with
    | intro ha' hb' hc' hd' =>
      rw [ha] at ha'
      rw [hb] at hb'
      rw [hc] at hc'
      rw [hd] at hd'
      cases ha'
      cases hb'
      cases hc'
      cases hd'
      exact ⟨rfl, rfl⟩

/-- One character of a quoted text: as it is, by an escape of one letter, by its
code point, or by the two surrogates for it. A surrogate alone spells none. -/
inductive Spelled : Char → List Char → List Char → Prop
  | plain {c rest} : 0x20 ≤ c.toNat → c ≠ '"' → c ≠ '\\' → Spelled c (c :: rest) rest
  | letter {e c rest} : letters.lookup e = some c → Spelled c ('\\' :: e :: rest) rest
  | unit {n text rest} : CodeUnit n text rest → n < 0xD800 ∨ 0xDFFF < n →
      Spelled (Char.ofNat n) ('\\' :: 'u' :: text) rest
  | pair {high low text middle rest} : CodeUnit high text ('\\' :: 'u' :: middle) →
      CodeUnit low middle rest → 0xD800 ≤ high → high ≤ 0xDBFF → 0xDC00 ≤ low → low ≤ 0xDFFF →
      Spelled (Char.ofNat (0x10000 + (high - 0xD800) * 0x400 + (low - 0xDC00)))
        ('\\' :: 'u' :: text) rest

theorem Spelled.unique (h : Spelled c text rest) (h' : Spelled d text rest') :
    c = d ∧ rest = rest' := by
  cases h with
  | plain _ _ hc =>
    cases h' with
    | plain => exact ⟨rfl, rfl⟩
    | _ => exact absurd rfl hc
  | letter hm =>
    cases h' with
    | plain _ _ hc => exact absurd rfl hc
    | letter hm' => exact ⟨Option.some.inj (hm.symm.trans hm'), rfl⟩
    | _ => cases hm
  | unit hu hn =>
    cases h' with
    | plain _ _ hc => exact absurd rfl hc
    | letter hm' => cases hm'
    | unit hu' _ =>
      obtain ⟨rfl, rfl⟩ := hu.unique hu'
      exact ⟨rfl, rfl⟩
    | pair hu' =>
      obtain ⟨rfl, -⟩ := hu.unique hu'
      omega
  | pair hu hl hh hh' hlow hlow' =>
    cases h' with
    | plain _ _ hc => exact absurd rfl hc
    | letter hm' => cases hm'
    | unit hu' _ =>
      obtain ⟨rfl, -⟩ := hu.unique hu'
      omega
    | pair hu' hl' =>
      obtain ⟨rfl, hmiddle⟩ := hu.unique hu'
      cases hmiddle
      obtain ⟨rfl, rfl⟩ := hl.unique hl'
      exact ⟨rfl, rfl⟩

inductive Quote : List Char → List Char → List Char → Prop
  | done {rest} : Quote [] ('"' :: rest) rest
  | next {c cs text middle rest} : Spelled c text middle → Quote cs middle rest →
      Quote (c :: cs) text rest

theorem Spelled.not_quote (h : Spelled c ('"' :: text) rest) : False := by
  cases h
  contradiction

theorem Quote.unique (h : Quote cs text rest) (h' : Quote ds text rest') :
    cs = ds ∧ rest = rest' := by
  induction h generalizing ds with
  | done =>
    cases h' with
    | done => exact ⟨rfl, rfl⟩
    | next hs => exact hs.not_quote.elim
  | next hs _ ih =>
    cases h' with
    | done => exact hs.not_quote.elim
    | next hs' hq' =>
      obtain ⟨rfl, rfl⟩ := hs.unique hs'
      obtain ⟨rfl, rfl⟩ := ih hq'
      exact ⟨rfl, rfl⟩

-- ---------------------------------------------------------------------------
-- Numerals
-- ---------------------------------------------------------------------------

def Digits (digits : List Char) : Prop := digits ≠ [] ∧ ∀ c ∈ digits, c.isDigit

/-- No zero stands in front of other digits. -/
inductive Whole : List Char → Prop
  | zero : Whole ['0']
  | digits {c rest} : c.isDigit → c ≠ '0' → (∀ d ∈ rest, d.isDigit) → Whole (c :: rest)

inductive Fraction : Option (List Char) → List Char → Prop
  | none : Fraction none []
  | some {digits} : Digits digits → Fraction (some digits) ('.' :: digits)

inductive Sign : Bool → List Char → Prop
  | none : Sign false []
  | plus : Sign false ['+']
  | minus : Sign true ['-']

inductive Exponent : Option (Bool × List Char) → List Char → Prop
  | none : Exponent none []
  | some {e sign negative digits} : e = 'e' ∨ e = 'E' → Sign negative sign → Digits digits →
      Exponent (some (negative, digits)) (e :: (sign ++ digits))

/-- A numeral has a minus or no sign. -/
def minus : Bool → List Char
  | true => ['-']
  | false => []

structure Number (numeral : Numeral) (text rest : List Char) : Prop where
  whole : Whole numeral.whole
  parts : ∃ fraction exponent, Fraction numeral.fraction fraction ∧
    Exponent numeral.exponent exponent ∧
    text = minus numeral.negative ++ (numeral.whole ++ (fraction ++ (exponent ++ rest)))

/-- Characters with which a numeral could go on. -/
def continues (c : Char) : Bool := c.isDigit || c == '.' || c == 'e' || c == 'E'

abbrev Stops := Leaves continues

theorem Leaves.of_cons {p : Char → Bool} (h : p c = false) (text : List Char) :
    Leaves p (c :: text) := by
  intro d hd
  cases hd
  exact h

theorem Whole.isDigits (h : Whole whole) : Digits whole := by
  cases h with
  | zero => exact ⟨List.cons_ne_nil _ _, List.forall_mem_singleton.mpr rfl⟩
  | digits hc _ hr => exact ⟨List.cons_ne_nil _ _, List.forall_mem_cons.mpr ⟨hc, hr⟩⟩

theorem Digits.head (h : Digits digits) : ∃ c rest, digits = c :: rest ∧ c.isDigit := by
  obtain ⟨hne, hd⟩ := h
  cases digits with
  | nil => exact absurd rfl hne
  | cons c rest => exact ⟨c, rest, rfl, hd c List.mem_cons_self⟩

/-- Digits followed by none are told from the rest. -/
theorem Digits.unique (h : Digits a) (h' : Digits b) (hx : Leaves Char.isDigit x)
    (hy : Leaves Char.isDigit y) (heq : a ++ x = b ++ y) : a = b ∧ x = y :=
  append_unique Char.isDigit h.2 h'.2 hx hy heq

def isSign (c : Char) : Bool := c == '+' || c == '-'

theorem isSign_of_isDigit (h : c.isDigit) : isSign c = false := by
  rw [Bool.eq_false_iff]
  intro hs
  simp only [isSign, Bool.or_eq_true, beq_iff_eq] at hs
  rcases hs with rfl | rfl <;> cases h

theorem Sign.isSign (h : Sign negative sign) : ∀ c ∈ sign, isSign c := by
  cases h with
  | none => exact List.forall_mem_nil _
  | plus => exact List.forall_mem_singleton.mpr rfl
  | minus => exact List.forall_mem_singleton.mpr rfl

theorem Sign.same (h : Sign a sign) (h' : Sign b sign) : a = b := by
  cases h <;> cases h' <;> rfl

theorem Sign.unique (h : Sign a s) (h' : Sign b s') (hx : Digits x) (hy : Digits y)
    (heq : s ++ (x ++ r) = s' ++ (y ++ r')) : a = b ∧ x ++ r = y ++ r' := by
  obtain ⟨c, xs, rfl, hc⟩ := hx.head
  obtain ⟨d, ys, rfl, hd⟩ := hy.head
  obtain ⟨rfl, hrest⟩ := append_unique Grammar.isSign h.isSign h'.isSign
    (.of_cons (isSign_of_isDigit hc) _) (.of_cons (isSign_of_isDigit hd) _) heq
  exact ⟨h.same h', hrest⟩

theorem sign_minus (negative : Bool) : Sign negative (minus negative) := by
  cases negative
  · exact .none
  · exact .minus

theorem continues_eq_false : continues c = false ↔
    c.isDigit = false ∧ c ≠ '.' ∧ c ≠ 'e' ∧ c ≠ 'E' := by
  simp [continues, and_assoc]

theorem Stops.digits (h : Stops rest) : Leaves Char.isDigit rest :=
  fun c hc => (continues_eq_false.mp (h c hc)).1

theorem Exponent.leaves_digit (h : Exponent exponent text) (hs : Stops rest) :
    Leaves Char.isDigit (text ++ rest) := by
  cases h with
  | none => exact hs.digits
  | some he => rcases he with rfl | rfl <;> exact .of_cons (by decide) _

theorem Exponent.head_ne (h : Exponent exponent text) (hs : Stops rest) :
    text ++ rest ≠ '.' :: other := by
  cases h with
  | none =>
    rintro rfl
    exact (continues_eq_false.mp (hs '.' rfl)).2.1 rfl
  | some he => rcases he with rfl | rfl <;> simp

theorem Exponent.unique (h : Exponent e text) (h' : Exponent e' text') (hs : Stops rest)
    (hs' : Stops rest') (heq : text ++ rest = text' ++ rest') : e = e' ∧ rest = rest' := by
  cases h with
  | none =>
    cases h' with
    | none => exact ⟨rfl, heq⟩
    | some he =>
      obtain rfl : rest = _ := heq
      have := continues_eq_false.mp (hs _ rfl)
      exact (he.elim this.2.2.1 this.2.2.2).elim
  | some he hsign hd =>
    cases h' with
    | none =>
      obtain rfl : _ = rest' := heq
      have := continues_eq_false.mp (hs' _ rfl)
      exact (he.elim this.2.2.1 this.2.2.2).elim
    | some _ hsign' hd' =>
      rw [List.cons_append, List.cons_append, List.append_assoc, List.append_assoc] at heq
      injection heq with _ htail
      obtain ⟨rfl, hdigits⟩ := hsign.unique hsign' hd hd' htail
      obtain ⟨rfl, hrest⟩ := hd.unique hd' hs.digits hs'.digits hdigits
      exact ⟨rfl, hrest⟩

theorem Fraction.leaves_digit (h : Fraction fraction text) (hl : Leaves Char.isDigit rest) :
    Leaves Char.isDigit (text ++ rest) := by
  cases h with
  | none => exact hl
  | some => exact .of_cons (by decide) _

theorem Fraction.unique (h : Fraction f text) (h' : Fraction f' text')
    (hd : Leaves Char.isDigit rest) (hd' : Leaves Char.isDigit rest')
    (hp : ∀ other, rest ≠ '.' :: other) (hp' : ∀ other, rest' ≠ '.' :: other)
    (heq : text ++ rest = text' ++ rest') : f = f' ∧ rest = rest' := by
  cases h with
  | none =>
    cases h' with
    | none => exact ⟨rfl, heq⟩
    | some => exact absurd heq (hp _)
  | some hx =>
    cases h' with
    | none => exact absurd heq.symm (hp' _)
    | some hx' =>
      rw [List.cons_append, List.cons_append] at heq
      injection heq with _ htail
      obtain ⟨rfl, hrest⟩ := hx.unique hx' hd hd' htail
      exact ⟨rfl, hrest⟩

theorem Number.unique (h : Number n text rest) (h' : Number m text rest') (hs : Stops rest)
    (hs' : Stops rest') : n = m ∧ rest = rest' := by
  obtain ⟨hw, f, e, hf, he, rfl⟩ := h
  obtain ⟨hw', f', e', hf', he', heq⟩ := h'
  obtain ⟨hsign, heq⟩ := (sign_minus _).unique (sign_minus _) hw.isDigits hw'.isDigits heq
  have hd := he.leaves_digit hs
  have hd' := he'.leaves_digit hs'
  obtain ⟨hwhole, heq⟩ := hw.isDigits.unique hw'.isDigits (hf.leaves_digit hd)
    (hf'.leaves_digit hd') heq
  obtain ⟨hfraction, heq⟩ := hf.unique hf' hd hd' (fun _ => he.head_ne hs)
    (fun _ => he'.head_ne hs') heq
  obtain ⟨hexponent, hrest⟩ := he.unique he' hs hs' heq
  cases n
  cases m
  cases hsign
  cases hwhole
  cases hfraction
  cases hexponent
  exact ⟨rfl, hrest⟩

theorem Number.digit (h : Number n text rest) :
    ∃ c after, text = minus n.negative ++ c :: after ∧ c.isDigit := by
  obtain ⟨hw, f, e, -, -, rfl⟩ := h
  obtain ⟨c, cs, hcs, hc⟩ := hw.isDigits.head
  exact ⟨c, _, by rw [hcs, List.cons_append], hc⟩

theorem Number.head (h : Number n (c :: text) rest) : c = '-' ∨ c.isDigit := by
  obtain ⟨d, after, heq, hd⟩ := h.digit
  cases hn : n.negative with
  | true =>
    rw [hn] at heq
    injection heq with hc _
    exact .inl hc
  | false =>
    rw [hn] at heq
    injection heq with hc _
    exact .inr (hc ▸ hd)

-- ---------------------------------------------------------------------------
-- Values
-- ---------------------------------------------------------------------------

inductive Entry where
  | item (value : Json)
  | member (key : List Char) (value : Json)

inductive Part where
  | value (value : Json)
  | entry (entry : Entry)
  | entries (list : List Entry)

/-- Blanks may stand in front of every part but a value, and behind the last of
the entries. -/
inductive Reads : Part → List Char → List Char → Prop
  | null {rest} : Reads (.value .null) ('n' :: 'u' :: 'l' :: 'l' :: rest) rest
  | true {rest} : Reads (.value (.bool true)) ('t' :: 'r' :: 'u' :: 'e' :: rest) rest
  | false {rest} : Reads (.value (.bool false)) ('f' :: 'a' :: 'l' :: 's' :: 'e' :: rest) rest
  | number {n text rest} : Number n text rest → Reads (.value (.number n)) text rest
  | string {cs text rest} : Quote cs text rest → Reads (.value (.string cs)) ('"' :: text) rest
  | array {items text rest} : Reads (.entries (items.map .item)) text (']' :: rest) →
      Reads (.value (.array items)) ('[' :: text) rest
  | object {members text rest} :
      Reads (.entries (members.map fun m => .member m.1 m.2)) text ('\x7d' :: rest) →
      Reads (.value (.object members)) ('\x7b' :: text) rest
  | item {value text start rest} : Spaces text start → Reads (.value value) start rest →
      Reads (.entry (.item value)) text rest
  | member {key value text quoted behind after start rest} : Spaces text ('"' :: quoted) →
      Quote key quoted behind → Spaces behind (':' :: after) → Spaces after start →
      Reads (.value value) start rest → Reads (.entry (.member key value)) text rest
  | none {text rest} : Spaces text rest → Reads (.entries []) text rest
  | last {entry text behind rest} : Reads (.entry entry) text behind → Spaces behind rest →
      Reads (.entries [entry]) text rest
  | more {entry next list text behind after rest} : Reads (.entry entry) text behind →
      Spaces behind (',' :: after) → Reads (.entries (next :: list)) after rest →
      Reads (.entries (entry :: next :: list)) text rest

def closes (c : Char) : Bool := c == ']' || c == '\x7d'

namespace Part

/-- What must follow a part for its end to be plain. -/
def Follows : Part → List Char → Prop
  | .value _, rest => Stops rest
  | .entry _, rest => ∃ c after, Spaces rest (c :: after) ∧ (c = ',' ∨ closes c)
  | .entries _, rest => ∃ c after, rest = c :: after ∧ closes c

def Alike : Part → Part → Prop
  | .value _, .value _ | .entry _, .entry _ | .entries _, .entries _ => True
  | _, _ => False

end Part

def starts (c : Char) : Bool := !isSpace c && !closes c

theorem Number.head_starts (h : Number n text rest) : ∃ c after, text = c :: after ∧ starts c := by
  cases text with
  | nil =>
    obtain ⟨hw, f, e, -, -, heq⟩ := h
    obtain ⟨c, cs, hc, -⟩ := hw.isDigits.head
    rw [hc] at heq
    simp at heq
  | cons c after =>
    refine ⟨c, after, rfl, ?_⟩
    rcases h.head with rfl | hd
    · decide
    · rw [starts, Bool.and_eq_true, Bool.not_eq_true', Bool.not_eq_true']
      constructor <;> rw [Bool.eq_false_iff] <;> intro hs <;>
        simp only [isSpace, closes, Bool.or_eq_true, beq_iff_eq] at hs
      · rcases hs with ((rfl | rfl) | rfl) | rfl <;> cases hd
      · rcases hs with rfl | rfl <;> cases hd

theorem Reads.value_head (h : Reads (.value value) text rest) :
    ∃ c after, text = c :: after ∧ starts c := by
  cases h with
  | number hn => exact hn.head_starts
  | _ => exact ⟨_, _, rfl, by decide⟩

theorem isSpace_of_starts (h : starts c) : isSpace c = false := by
  rw [starts, Bool.and_eq_true, Bool.not_eq_true'] at h
  exact h.1

theorem closes_of_starts (h : starts c) : closes c = false := by
  rw [starts, Bool.and_eq_true, Bool.not_eq_true', Bool.not_eq_true'] at h
  exact h.2

theorem Reads.entry_head (h : Reads (.entry entry) text rest) :
    ∃ c after, Spaces text (c :: after) ∧ starts c := by
  cases h with
  | item hs hv =>
    obtain ⟨c, after, rfl, hc⟩ := hv.value_head
    exact ⟨c, after, hs, hc⟩
  | member hs => exact ⟨_, _, hs, by decide⟩

theorem isSpace_of_follows (h : c = ',' ∨ closes c) : isSpace c = false := by
  rcases h with rfl | h
  · rfl
  · simp only [closes, Bool.or_eq_true, beq_iff_eq] at h
    rcases h with rfl | rfl <;> rfl

theorem Skips.cons_unique (h : Spaces text (c :: a)) (h' : Spaces text (d :: b))
    (hc : isSpace c = false) (hd : isSpace d = false) : c = d ∧ a = b :=
  List.cons.inj (Skips.unique h h' (.of_cons hc _) (.of_cons hd _))

/-- No blank goes on a numeral. -/
theorem Skips.stops (h : Spaces text rest) (hs : Stops rest) : Stops text := by
  obtain ⟨run, rfl, hrun⟩ := h
  cases run with
  | nil => exact hs
  | cons d run =>
    refine .of_cons ?_ _
    have hd := hrun d List.mem_cons_self
    simp only [isSpace, Bool.or_eq_true, beq_iff_eq] at hd
    rcases hd with ((rfl | rfl) | rfl) | rfl <;> decide

theorem stops_of_spaces (h : Spaces rest (c :: after)) (hc : c = ',' ∨ closes c) : Stops rest := by
  refine Skips.stops h (.of_cons ?_ _)
  simp only [closes, Bool.or_eq_true, beq_iff_eq] at hc
  rcases hc with rfl | rfl | rfl <;> decide

theorem stops_of_end (h : Spaces rest []) : Stops rest := Skips.stops h fun _ hc => by cases hc

/-- An item is not read as a member: no colon follows it. -/
theorem item_ne_member (hv : Reads (.value value) ('"' :: quoted) rest)
    (hq : Quote key quoted behind) (hcolon : Spaces behind (':' :: after))
    (hf : Part.Follows (.entry entry) rest) : False := by
  obtain ⟨c, text, hs, hc⟩ := hf
  cases hv with
  | number hn => exact absurd hn.head (by decide)
  | string hq' =>
    obtain ⟨-, rfl⟩ := hq.unique hq'
    obtain ⟨rfl, -⟩ := Skips.cons_unique hs hcolon (isSpace_of_follows hc) rfl
    revert hc
    decide

theorem entry_ne_none (h : Reads (.entry entry) text behind) (hs : Spaces text rest)
    (hf : Part.Follows (.entries list) rest) : False := by
  obtain ⟨c, after, rfl, hc⟩ := hf
  obtain ⟨d, start, hstart, hd⟩ := h.entry_head
  obtain ⟨rfl, -⟩ := Skips.cons_unique hs hstart (isSpace_of_follows (.inr hc))
    (isSpace_of_starts hd)
  rw [closes_of_starts hd] at hc
  cases hc

theorem last_ne_more (hs : Spaces behind rest) (hf : Part.Follows (.entries list) rest)
    (hcomma : Spaces behind (',' :: after)) : False := by
  obtain ⟨c, text, rfl, hc⟩ := hf
  obtain ⟨rfl, -⟩ := Skips.cons_unique hs hcomma (isSpace_of_follows (.inr hc)) rfl
  cases hc

theorem end_unique (hs : Spaces text rest) (hs' : Spaces text rest')
    (hf : Part.Follows (.entries list) rest) (hf' : Part.Follows (.entries list') rest') :
    rest = rest' := by
  obtain ⟨c, after, rfl, hc⟩ := hf
  obtain ⟨d, after', rfl, hd⟩ := hf'
  exact Skips.unique hs hs' (.of_cons (isSpace_of_follows (.inr hc)) _)
    (.of_cons (isSpace_of_follows (.inr hd)) _)

theorem follows_of_last (hs : Spaces behind rest) (hf : Part.Follows (.entries list) rest) :
    Part.Follows (.entry entry) behind := by
  obtain ⟨c, text, rfl, hc⟩ := hf
  exact ⟨c, text, hs, .inr hc⟩

theorem follows_of_more (hs : Spaces behind (',' :: after)) : Part.Follows (.entry entry) behind :=
  ⟨',', after, hs, .inl rfl⟩

theorem stops_of_follows (hf : Part.Follows (.entry entry) rest) : Stops rest := by
  obtain ⟨c, after, hs, hc⟩ := hf
  exact stops_of_spaces hs hc

theorem Reads.start_unique (hs : Spaces text start) (hv : Reads (.value value) start rest)
    (hs' : Spaces text start') (hv' : Reads (.value value') start' rest') : start = start' := by
  obtain ⟨c, after, rfl, hc⟩ := hv.value_head
  obtain ⟨d, after', rfl, hd⟩ := hv'.value_head
  exact Skips.unique hs hs' (.of_cons (isSpace_of_starts hc) _) (.of_cons (isSpace_of_starts hd) _)

theorem Reads.start_quote (hs : Spaces text start) (hv : Reads (.value value) start rest)
    (hs' : Spaces text ('"' :: quoted)) : start = '"' :: quoted := by
  obtain ⟨c, after, rfl, hc⟩ := hv.value_head
  exact Skips.unique hs hs' (.of_cons (isSpace_of_starts hc) _) (.of_cons rfl _)

-- ---------------------------------------------------------------------------
-- One part of a kind
-- ---------------------------------------------------------------------------

/-- What is read in the same place and is of the same kind is the same. -/
def Sole (p : Part) (text rest : List Char) : Prop :=
  p.Follows rest → ∀ q rest', Reads q text rest' → p.Alike q → q.Follows rest' →
    p = q ∧ rest = rest'

def isAtom : Json → Bool
  | .array _ | .object _ => false
  | _ => true

theorem Reads.sole_atom (h : Reads (.value v) text rest) (hv : isAtom v) :
    Sole (.value v) text rest := by
  intro hf q rest' h' hk hf'
  cases h with
  | null =>
    cases h' with
    | null => exact ⟨rfl, rfl⟩
    | number hn => exact absurd hn.head (by decide)
    | _ => exact hk.elim
  | true =>
    cases h' with
    | true => exact ⟨rfl, rfl⟩
    | number hn => exact absurd hn.head (by decide)
    | _ => exact hk.elim
  | false =>
    cases h' with
    | false => exact ⟨rfl, rfl⟩
    | number hn => exact absurd hn.head (by decide)
    | _ => exact hk.elim
  | number hn =>
    cases h' with
    | number hn' =>
      obtain ⟨rfl, rfl⟩ := hn.unique hn' hf hf'
      exact ⟨rfl, rfl⟩
    | item | member | none | last | more => exact hk.elim
    | _ => exact absurd hn.head (by decide)
  | string hq =>
    cases h' with
    | string hq' =>
      obtain ⟨rfl, rfl⟩ := hq.unique hq'
      exact ⟨rfl, rfl⟩
    | number hn => exact absurd hn.head (by decide)
    | _ => exact hk.elim
  | array | object => cases hv

theorem Sole.array (h : Sole (.entries (items.map .item)) text (']' :: rest)) :
    Sole (.value (.array items)) ('[' :: text) rest := by
  intro _ q rest' h' hk _
  cases h' with
  | array h' =>
    obtain ⟨hlist, hrest⟩ := h ⟨_, _, rfl, rfl⟩ _ _ h' trivial ⟨_, _, rfl, rfl⟩
    rw [(List.map_inj_right fun _ _ h => Entry.item.inj h).mp (Part.entries.inj hlist)]
    exact ⟨rfl, (List.cons.inj hrest).2⟩
  | number hn => exact absurd hn.head (by decide)
  | _ => exact hk.elim

theorem Sole.object
    (h : Sole (.entries (members.map fun m => .member m.1 m.2)) text ('\x7d' :: rest)) :
    Sole (.value (.object members)) ('\x7b' :: text) rest := by
  intro _ q rest' h' hk _
  cases h' with
  | object h' =>
    obtain ⟨hlist, hrest⟩ := h ⟨_, _, rfl, rfl⟩ _ _ h' trivial ⟨_, _, rfl, rfl⟩
    have hmember (m n : List Char × Json) (h : Entry.member m.1 m.2 = .member n.1 n.2) : m = n :=
      Prod.ext (Entry.member.inj h).1 (Entry.member.inj h).2
    rw [(List.map_inj_right hmember).mp (Part.entries.inj hlist)]
    exact ⟨rfl, (List.cons.inj hrest).2⟩
  | number hn => exact absurd hn.head (by decide)
  | _ => exact hk.elim

theorem Sole.item (hs : Spaces text start) (hv : Reads (.value value) start rest)
    (h : Sole (.value value) start rest) : Sole (.entry (.item value)) text rest := by
  intro hf q rest' h' hk hf'
  cases h' with
  | item hs' hv' =>
    obtain rfl := Reads.start_unique hs hv hs' hv'
    obtain ⟨hvalue, rfl⟩ := h (stops_of_follows hf) _ _ hv' trivial (stops_of_follows hf')
    cases hvalue
    exact ⟨rfl, rfl⟩
  | member hs' hq' hcolon' =>
    obtain rfl := hv.start_quote hs hs'
    exact (item_ne_member hv hq' hcolon' hf).elim
  | _ => exact hk.elim

theorem Sole.member (hs : Spaces text ('"' :: quoted)) (hq : Quote key quoted behind)
    (hcolon : Spaces behind (':' :: after)) (hafter : Spaces after start)
    (hv : Reads (.value value) start rest) (h : Sole (.value value) start rest) :
    Sole (.entry (.member key value)) text rest := by
  intro hf q rest' h' hk hf'
  cases h' with
  | item hs' hv' =>
    obtain rfl := hv'.start_quote hs' hs
    exact (item_ne_member hv' hq hcolon hf').elim
  | member hs' hq' hcolon' hafter' hv' =>
    obtain ⟨-, rfl⟩ := Skips.cons_unique hs hs' rfl rfl
    obtain ⟨rfl, rfl⟩ := hq.unique hq'
    obtain ⟨-, rfl⟩ := Skips.cons_unique hcolon hcolon' rfl rfl
    obtain rfl := Reads.start_unique hafter hv hafter' hv'
    obtain ⟨hvalue, rfl⟩ := h (stops_of_follows hf) _ _ hv' trivial (stops_of_follows hf')
    cases hvalue
    exact ⟨rfl, rfl⟩
  | _ => exact hk.elim

theorem Sole.none (hs : Spaces text rest) : Sole (.entries []) text rest := by
  intro hf q rest' h' hk hf'
  cases h' with
  | none hs' => exact ⟨rfl, end_unique hs hs' hf hf'⟩
  | last h' => exact (entry_ne_none h' hs hf).elim
  | more h' => exact (entry_ne_none h' hs hf).elim
  | _ => exact hk.elim

theorem Sole.last (he : Reads (.entry entry) text behind) (hs : Spaces behind rest)
    (h : Sole (.entry entry) text behind) : Sole (.entries [entry]) text rest := by
  intro hf q rest' h' hk hf'
  have hentry := h (follows_of_last hs hf)
  cases h' with
  | none hs' => exact (entry_ne_none he hs' hf').elim
  | last h' hs' =>
    obtain ⟨hentry, rfl⟩ := hentry _ _ h' trivial (follows_of_last hs' hf')
    cases hentry
    exact ⟨rfl, end_unique hs hs' hf hf'⟩
  | more h' hs' =>
    obtain ⟨-, rfl⟩ := hentry _ _ h' trivial (follows_of_more hs')
    exact (last_ne_more hs hf hs').elim
  | _ => exact hk.elim

theorem Sole.more (he : Reads (.entry entry) text behind) (hs : Spaces behind (',' :: after))
    (h : Sole (.entry entry) text behind) (hl : Sole (.entries (next :: list)) after rest) :
    Sole (.entries (entry :: next :: list)) text rest := by
  intro hf q rest' h' hk hf'
  have hentry := h (follows_of_more hs)
  cases h' with
  | none hs' => exact (entry_ne_none he hs' hf').elim
  | last h' hs' =>
    obtain ⟨-, rfl⟩ := hentry _ _ h' trivial (follows_of_last hs' hf')
    exact (last_ne_more hs' hf' hs).elim
  | more h' hs' hl' =>
    obtain ⟨hentry, rfl⟩ := hentry _ _ h' trivial (follows_of_more hs')
    cases hentry
    obtain ⟨-, rfl⟩ := Skips.cons_unique hs hs' rfl rfl
    obtain ⟨hlist, rfl⟩ := hl hf _ _ hl' trivial hf'
    cases hlist
    exact ⟨rfl, rfl⟩
  | _ => exact hk.elim

theorem Reads.sole (h : Reads p text rest) : Sole p text rest := by
  induction h with
  | null => exact Reads.sole_atom .null rfl
  | true => exact Reads.sole_atom .true rfl
  | false => exact Reads.sole_atom .false rfl
  | number hn => exact Reads.sole_atom (.number hn) rfl
  | string hq => exact Reads.sole_atom (.string hq) rfl
  | array _ ih => exact ih.array
  | object _ ih => exact ih.object
  | item hs hv ih => exact ih.item hs hv
  | member hs hq hcolon hafter hv ih => exact ih.member hs hq hcolon hafter hv
  | none hs => exact .none hs
  | last he hs ih => exact ih.last he hs
  | more he hs _ ih ihl => exact ih.more he hs ihl

/-- A text starts with one part of a kind at most. -/
theorem Reads.unique (h : Reads p text rest) (h' : Reads q text rest') (hk : p.Alike q)
    (hf : p.Follows rest) (hf' : q.Follows rest') : p = q ∧ rest = rest' :=
  h.sole hf q rest' h' hk hf'

-- ---------------------------------------------------------------------------
-- Whole texts
-- ---------------------------------------------------------------------------

/-- The text is a spelling of the value, with blanks around it or not. -/
def IsText (value : Json) (text : List Char) : Prop :=
  ∃ start rest, Spaces text start ∧ Reads (.value value) start rest ∧ Spaces rest []

theorem IsText.unique (h : IsText v text) (h' : IsText w text) : v = w := by
  obtain ⟨start, rest, hs, hv, hend⟩ := h
  obtain ⟨start', rest', hs', hv', hend'⟩ := h'
  obtain rfl := Reads.start_unique hs hv hs' hv'
  obtain ⟨hvalue, -⟩ := hv.unique hv' trivial (stops_of_end hend) (stops_of_end hend')
  exact Part.value.inj hvalue

end ManifestNotice.Json.Grammar
