import ManifestNotice.Proofs.Json.Grammar

/-!
# The form of JSON

Which texts are JSON at all, by the grammar of RFC 8259: the rules of the values,
without what they stand for. A quoted text may hold an escape of any unit here, so
also one that stands for no character. Every spelling of a value is of that form
(`IsText.isJson`).
-/

namespace ManifestNotice.Json.Grammar

inductive Formed : List Char → List Char → Prop
  | plain {c rest} : 0x20 ≤ c.toNat → c ≠ '"' → c ≠ '\\' → Formed (c :: rest) rest
  | letter {e c rest} : letters.lookup e = some c → Formed ('\\' :: e :: rest) rest
  | unit {n text rest} : CodeUnit n text rest → Formed ('\\' :: 'u' :: text) rest

inductive Enclosed : List Char → List Char → Prop
  | done {rest} : Enclosed ('"' :: rest) rest
  | next {text middle rest} : Formed text middle → Enclosed middle rest → Enclosed text rest

/-- What may be found in a text. Entries are items, or members if they are named;
there is at least one of several. -/
inductive Shape where
  | value
  | entry (named : Bool)
  | several (named : Bool)
  | entries (named : Bool)

/-- The text starts with something of that shape and goes on with the rest. -/
inductive Forms : Shape → List Char → List Char → Prop
  | null {rest} : Forms .value ('n' :: 'u' :: 'l' :: 'l' :: rest) rest
  | true {rest} : Forms .value ('t' :: 'r' :: 'u' :: 'e' :: rest) rest
  | false {rest} : Forms .value ('f' :: 'a' :: 'l' :: 's' :: 'e' :: rest) rest
  | number {n text rest} : Number n text rest → Forms .value text rest
  | string {text rest} : Enclosed text rest → Forms .value ('"' :: text) rest
  | array {text rest} : Forms (.entries Bool.false) text (']' :: rest) →
      Forms .value ('[' :: text) rest
  | object {text rest} : Forms (.entries Bool.true) text ('\x7d' :: rest) →
      Forms .value ('\x7b' :: text) rest
  | item {text start rest} : Spaces text start → Forms .value start rest →
      Forms (.entry Bool.false) text rest
  | member {text quoted behind after start rest} : Spaces text ('"' :: quoted) →
      Enclosed quoted behind → Spaces behind (':' :: after) → Spaces after start →
      Forms .value start rest → Forms (.entry Bool.true) text rest
  | last {named text behind rest} : Forms (.entry named) text behind → Spaces behind rest →
      Forms (.several named) text rest
  | more {named text behind after rest} : Forms (.entry named) text behind →
      Spaces behind (',' :: after) → Forms (.several named) after rest →
      Forms (.several named) text rest
  | none {named text rest} : Spaces text rest → Forms (.entries named) text rest
  | some {named text rest} : Forms (.several named) text rest → Forms (.entries named) text rest

def IsJson (text : List Char) : Prop :=
  ∃ start rest, Spaces text start ∧ Forms .value start rest ∧ Spaces rest []

-- ---------------------------------------------------------------------------
-- Spellings of values
-- ---------------------------------------------------------------------------

theorem Spelled.formed (h : Spelled c text rest) :
    Formed text rest ∨ ∃ middle, Formed text middle ∧ Formed middle rest := by
  cases h with
  | plain hc hquote hbackslash => exact .inl (.plain hc hquote hbackslash)
  | letter he => exact .inl (.letter he)
  | unit hu => exact .inl (.unit hu)
  | pair hu hl => exact .inr ⟨_, .unit hu, .unit hl⟩

theorem Quote.enclosed (h : Quote cs text rest) : Enclosed text rest := by
  induction h with
  | done => exact .done
  | next hs _ ih =>
    rcases hs.formed with hf | ⟨middle, hf, hf'⟩
    · exact .next hf ih
    · exact .next hf (.next hf' ih)

def Entry.isNamed : Entry → Bool
  | .item _ => false
  | .member .. => true

/-- A part has the shape of its kind; entries are of one kind. -/
theorem Reads.forms (h : Reads part text rest) : match part with
    | .value _ => Forms .value text rest
    | .entry entry => Forms (.entry entry.isNamed) text rest
    | .entries [] => Spaces text rest
    | .entries (entry :: list) => (∀ e ∈ list, e.isNamed = entry.isNamed) →
        Forms (.several entry.isNamed) text rest := by
  induction h with
  | null => exact .null
  | true => exact .true
  | false => exact .false
  | number hn => exact .number hn
  | string hq => exact .string hq.enclosed
  | @array items text rest _ ih =>
    cases items with
    | nil => exact .array (.none ih)
    | cons => exact .array (.some (ih (by simp [Entry.isNamed])))
  | @object members text rest _ ih =>
    cases members with
    | nil => exact .object (.none ih)
    | cons => exact .object (.some (ih fun e he => by
        obtain ⟨m, -, rfl⟩ := List.mem_map.mp he
        rfl))
  | item hs _ ih => exact .item hs ih
  | member hs hq hcolon hafter _ ih => exact .member hs hq.enclosed hcolon hafter ih
  | none hs => exact hs
  | last _ hs ih => exact fun _ => .last ih hs
  | @more entry next list text behind after rest _ hs _ ih ihl =>
    intro hkind
    have hnext : next.isNamed = entry.isNamed := hkind next List.mem_cons_self
    have hlist := ihl fun e he => (hkind e (List.mem_cons_of_mem _ he)).trans hnext.symm
    rw [hnext] at hlist
    exact .more ih hs hlist

theorem IsText.isJson (h : IsText value text) : IsJson text := by
  obtain ⟨start, rest, hs, hv, hend⟩ := h
  exact ⟨start, rest, hs, hv.forms, hend⟩

end ManifestNotice.Json.Grammar
