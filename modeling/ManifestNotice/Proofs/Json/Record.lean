import ManifestNotice.Proofs.Json.Typed

/-!
# Records, read

Reading a record decodes (`record_decodes`): what comes of a text depends on the
value only that it stands for (`ofText_of_isText`). A record is told here by its
slots, which are fields together with what is read into them.
-/

namespace ManifestNotice.Json.Grammar

/-- A field, the part of a state that it is read into, and what is read. -/
structure Slot (σ : Type) where
  name : String
  Value : Type
  get : σ → Option Value
  put : σ → Value → σ
  read : Reader Value
  decode : Json → Option Value
  decodes : Decodes read decode
  get_put : ∀ state value, get (put state value) = some value

variable {σ : Type} {record : Record σ} {slots : List (Slot σ)} {state final : σ}
  {members : List (List Char × Json)} {items : List Json} {named first : Bool} {fuel index : Nat}

def Slot.field (slot : Slot σ) : Field σ where
  name := slot.name
  isSet state := (slot.get state).isSome
  read state text := (slot.read text).map fun (value, rest) => (slot.put state value, rest)

theorem Slot.field_decodes (slot : Slot σ) (state : σ) :
    Decodes (slot.field.read state) fun v => (slot.decode v).map (slot.put state) :=
  slot.decodes.map (slot.put state)

-- ---------------------------------------------------------------------------
-- Records of values
-- ---------------------------------------------------------------------------

def slot? (slots : List (Slot σ)) (key : List Char) : Option (Slot σ) :=
  slots.find? (·.name == String.ofList key)

/-- A member is put into its slot, if there is one and it is empty. -/
def ofMember? (slots : List (Slot σ)) (state : σ) (m : List Char × Json) : Option σ :=
  match slot? slots m.1 with
  | none => some state
  | some slot => if (slot.get state).isSome then none else (slot.decode m.2).map (slot.put state)

/-- The state of an object that has all it must have. -/
def complete? (record : Record σ) (state : σ) : Option σ :=
  match record.missing? state with
  | some _ => none
  | none => some state

def ofItems? (least : Nat) : Nat → List (Slot σ) → σ → List Json → Option σ
  | _, [], state, [] => some state
  | _, [], _, _ :: _ => none
  | index, _ :: _, state, [] => if index < least then none else some state
  | index, slot :: slots, state, item :: items =>
    (slot.decode item).bind fun value =>
      ofItems? least (index + 1) slots (slot.put state value) items

def ofJson? (record : Record σ) (slots : List (Slot σ)) : Json → Option σ
  | .array items => ofItems? record.least 0 slots record.start items
  | .object members => (members.foldlM (ofMember? slots) record.start).bind (complete? record)
  | _ => none

-- ---------------------------------------------------------------------------
-- Entries, one by one
-- ---------------------------------------------------------------------------

/-- The text of the next entry, behind a comma unless it is the first. -/
def Ahead : Bool → List Char → List Char → Prop
  | true, front, text => front = text
  | false, front, text => Spaces front (',' :: text)

def GoesOn (named first : Bool) (front rest : List Char) : Prop :=
  Spaces front (closing named :: rest) ∨
    ∃ text, Ahead first front text ∧ Forms (.several named) text (closing named :: rest)

theorem GoesOn.several (he : Forms (.entry named) text behind) (h : GoesOn named false behind rest) :
    Forms (.several named) text (closing named :: rest) := by
  rcases h with hs | ⟨after, hcomma, hl⟩
  · exact .last he hs
  · exact .more he hcomma hl

theorem GoesOn.forms (h : GoesOn named true front rest) :
    Forms (.entries named) front (closing named :: rest) := by
  rcases h with hs | ⟨_, rfl, hl⟩
  · exact .none hs
  · exact .some hl

theorem Ahead.length_le (h : Ahead first front text) : text.length ≤ front.length := by
  cases first with
  | true => exact Nat.le_of_eq (congrArg List.length h.symm)
  | false =>
    have := Skips.length_le h
    rw [List.length_cons] at this
    omega

/-- Where an entry is ahead, a list is not at its end. -/
theorem Ahead.not_end (h : Ahead first front text) (he : Reads (.entry entry) text behind)
    (hs : Spaces front (closing named :: rest)) : False := by
  cases first with
  | true =>
    cases h
    obtain ⟨c, after, hstart, hc⟩ := he.entry_head
    obtain ⟨heq, -⟩ :=
      Skips.cons_unique hs hstart (isSpace_closing named) (isSpace_of_starts hc)
    exact ne_closing_of_starts hc named heq.symm
  | false =>
    obtain ⟨hcomma, -⟩ := Skips.cons_unique h hs rfl (isSpace_closing named)
    cases named <;> cases hcomma

inductive Listed (named : Bool) : Bool → List Entry → List Char → List Char → Prop
  | done {first front rest} : Spaces front (closing named :: rest) → Listed named first [] front rest
  | entry {first entry list front text behind rest} : Ahead first front text →
      Reads (.entry entry) text behind → Stops behind → Listed named false list behind rest →
      Listed named first (entry :: list) front rest

theorem Listed.of_reads (h : Reads (.entries list) text (closing named :: rest)) :
    Listed named true list text rest := by
  have hmore {first front text entry list}
      (h : Reads (.entries (entry :: list)) text (closing named :: rest))
      (ha : Ahead first front text) : Listed named first (entry :: list) front rest := by
    induction list generalizing first front text entry with
    | nil =>
      cases h with
      | last he hs => exact .entry ha he (stops_of_spaces hs (.inr (closes_closing named))) (.done hs)
    | cons next list ih =>
      cases h with
      | more he hs hl => exact .entry ha he (stops_of_spaces hs (.inl rfl)) (ih hl hs)
  cases list with
  | nil =>
    cases h with
    | none hs => exact .done hs
  | cons entry list => exact hmore h rfl

-- ---------------------------------------------------------------------------
-- Members
-- ---------------------------------------------------------------------------

theorem nextKey_key (h : Ahead first front text) (hs : Spaces text ('"' :: quoted)) :
    Record.nextKey first front = (Quoted.read quoted).map fun (key, rest) => (some key, rest) := by
  have hquote := skipBlanks_eq hs (.of_cons rfl _)
  cases first with
  | true =>
    rw [Ahead] at h
    unfold Record.nextKey
    rw [h, hquote]
    rfl
  | false =>
    simp only [Record.nextKey, skipBlanks_eq h (.of_cons rfl _), hquote]
    rfl

theorem nextKey_end (hs : Spaces front ('\x7d' :: rest)) :
    Record.nextKey first front = .ok (none, rest) := by
  unfold Record.nextKey
  rw [skipBlanks_eq hs (.of_cons rfl _)]
  cases first <;> rfl

theorem key_eq_ok (h : Record.nextKey.key text = .ok (found, rest)) :
    ∃ key quoted, found = some key ∧ text = '"' :: quoted ∧ Quote key quoted rest := by
  unfold Record.nextKey.key at h
  split at h
  · obtain ⟨⟨key, _⟩, hread, heq⟩ := map_eq_ok_iff.mp h
    cases heq
    exact ⟨key, _, rfl, rfl, read_eq_ok_iff.mp hread⟩
  all_goals cases h

theorem nextKey_eq_ok (h : Record.nextKey first front = .ok (found, rest)) :
    (found = none ∧ Spaces front ('\x7d' :: rest)) ∨
      ∃ key text quoted, found = some key ∧ Ahead first front text ∧
        Spaces text ('"' :: quoted) ∧ Quote key quoted rest := by
  have hs := spaces_skipBlanks front
  unfold Record.nextKey at h
  split at h
  · next hfront =>
    cases h
    rw [hfront] at hs
    exact .inl ⟨rfl, hs⟩
  · cases h
  · obtain ⟨key, quoted, rfl, hquote, hkey⟩ := key_eq_ok h
    rw [hquote] at hs
    exact .inr ⟨key, front, quoted, rfl, rfl, hs, hkey⟩
  · next after hfront =>
    rw [hfront] at hs
    have hafter := spaces_skipBlanks after
    split at h
    · cases h
    · obtain ⟨key, quoted, rfl, hquote, hkey⟩ := key_eq_ok h
      rw [hquote] at hafter
      exact .inr ⟨key, after, quoted, rfl, hs, hafter, hkey⟩
  · cases h

theorem slot?_field (hfields : record.fields = slots.map Slot.field) (key : List Char) :
    record.field? key = (slot? slots key).map Slot.field := by
  rw [Record.field?, hfields, List.find?_map]
  rfl

theorem member_decodes (hfields : record.fields = slots.map Slot.field)
    (hcolon : Spaces text (':' :: after)) (hs : Spaces after start)
    (hv : Reads (.value v) start rest) (hstops : Stops rest) :
    (record.member state key text).toOption = (ofMember? slots state (key, v)).map (·, rest) := by
  rw [Record.member, slot?_field hfields, ofMember?]
  cases slot? slots key with
  | none =>
    dsimp only [Option.map_none]
    rw [skipColon_eq_ok_iff.mpr hcolon]
    dsimp only [bind, Except.bind]
    rw [hv.forms.skip hs hstops]
    rfl
  | some slot =>
    dsimp only [Option.map_some, Slot.field]
    split
    · rfl
    · rw [skipColon_eq_ok_iff.mpr hcolon]
      have hvalue := (slot.field_decodes state).value hs hv hstops
      rw [Option.map_map] at hvalue ⊢
      exact hvalue

theorem forms_of_member (hfields : record.fields = slots.map Slot.field)
    (h : record.member state key text = .ok (final, rest)) :
    ∃ after start, Spaces text (':' :: after) ∧ Spaces after start ∧ Forms .value start rest := by
  rw [Record.member, slot?_field hfields] at h
  cases hslot : slot? slots key with
  | none =>
    rw [hslot] at h
    obtain ⟨_, hskip, heq⟩ := bind_eq_ok_iff.mp h
    cases heq
    obtain ⟨after, hcolon, hskip⟩ := bind_eq_ok_iff.mp hskip
    obtain ⟨start, hs, hform⟩ := forms_of_skip hskip
    exact ⟨after, start, skipColon_eq_ok_iff.mp hcolon, hs, hform⟩
  | some slot =>
    rw [hslot] at h
    dsimp only [Option.map_some] at h
    split at h
    · cases h
    · obtain ⟨after, hcolon, hread⟩ := bind_eq_ok_iff.mp h
      obtain ⟨start, hs, hform⟩ := (slot.field_decodes state).form hread
      exact ⟨after, start, skipColon_eq_ok_iff.mp hcolon, hs, hform⟩

theorem members_end (hs : Spaces front ('\x7d' :: rest)) :
    (record.members (fuel + 1) first state front).toOption =
      (complete? record state).map (·, rest) := by
  rw [Record.members, nextKey_end hs]
  dsimp only [bind, Except.bind, complete?]
  cases record.missing? state <;> rfl

theorem members_next (hfields : record.fields = slots.map Slot.field)
    (ha : Ahead first front text) (hm : Reads (.entry (.member key v)) text behind)
    (hstops : Stops behind) :
    (record.members (fuel + 1) first state front).toOption =
      (ofMember? slots state (key, v)).bind fun state =>
        (record.members fuel false state behind).toOption := by
  cases hm with
  | member hs hq hcolon hafter hv =>
    rw [Record.members, nextKey_key ha hs, read_eq_ok_iff.mpr hq]
    show (record.member state key _ >>= fun next =>
      record.members fuel false next.1 next.2).toOption = _
    rw [toOption_bind, member_decodes hfields hcolon hafter hv hstops, Option.bind_map]
    rfl

theorem Forms.member_length_lt (h : Forms (.entry Bool.true) text rest) :
    rest.length < text.length := by
  cases h with
  | member hs hq hcolon hafter hv =>
    have := behind_key_lt hs hq hcolon
    have := hafter.length_le
    have := hv.length_le
    omega

theorem members_decode (hfields : record.fields = slots.map Slot.field)
    (h : Listed true first (members.map fun m => .member m.1 m.2) front rest)
    (hfuel : front.length < fuel) :
    (record.members fuel first state front).toOption =
      ((members.foldlM (ofMember? slots) state).bind (complete? record)).map (·, rest) := by
  obtain ⟨fuel, rfl⟩ := Nat.exists_eq_add_one_of_ne_zero (Nat.ne_zero_of_lt hfuel)
  induction members generalizing fuel first state front with
  | nil =>
    cases h with
    | done hs => exact members_end hs
  | cons m members ih =>
    cases h with
    | entry ha hm hstops hrest =>
      have hbehind := hm.forms.member_length_lt
      have hfront := ha.length_le
      obtain ⟨fuel, rfl⟩ : ∃ less, fuel = less + 1 := Nat.exists_eq_add_one_of_ne_zero (by omega)
      rw [members_next hfields ha hm hstops, List.foldlM_cons, Option.bind_eq_bind,
        Option.bind_assoc, Option.map_bind]
      exact congrArg _ (funext fun state => ih hrest fuel (by omega))

theorem goesOn_of_members (hfields : record.fields = slots.map Slot.field)
    (h : record.members fuel first state front = .ok (final, rest)) :
    GoesOn true first front rest := by
  induction fuel generalizing first state front with
  | zero => cases h
  | succ fuel ih =>
    rw [Record.members] at h
    obtain ⟨⟨found, behind⟩, hkey, h⟩ := bind_eq_ok_iff.mp h
    rcases nextKey_eq_ok hkey with ⟨rfl, hs⟩ | ⟨key, text, quoted, rfl, ha, hs, hq⟩
    · dsimp only at h
      split at h
      · cases h
      · cases h
        exact .inl hs
    · obtain ⟨⟨_, _⟩, hmember, hmembers⟩ := bind_eq_ok_iff.mp h
      obtain ⟨after, start, hcolon, hafter, hv⟩ := forms_of_member hfields hmember
      have hentry : Forms (.entry true) text _ := .member hs hq.enclosed hcolon hafter hv
      exact .inr ⟨text, ha, (ih hmembers).several hentry⟩

-- ---------------------------------------------------------------------------
-- Items
-- ---------------------------------------------------------------------------

theorem nextItem_item (h : Ahead first front text) (hs : Spaces text (c :: after)) (hc : starts c) :
    Record.nextItem first front = .ok (some (c :: after)) := by
  have hitem := skipBlanks_starts hs hc
  have hclose : c ≠ ']' := ne_closing_of_starts hc false
  cases first with
  | true =>
    rw [Ahead] at h
    unfold Record.nextItem
    rw [h, hitem]
    simp [hclose]
  | false =>
    simp [Record.nextItem, skipBlanks_eq h (.of_cons rfl _), hitem, hclose]

theorem nextItem_end (hs : Spaces front (']' :: rest)) :
    Record.nextItem first front = .ok none := by
  unfold Record.nextItem
  rw [skipBlanks_eq hs (.of_cons rfl _)]
  cases first <;> rfl

theorem nextItem_eq_ok (h : Record.nextItem first front = .ok found) :
    (found = none ∧ ∃ rest, Spaces front (']' :: rest)) ∨
      ∃ text start, found = some start ∧ Ahead first front text ∧ Spaces text start := by
  have hs := spaces_skipBlanks front
  unfold Record.nextItem at h
  split at h
  · next hfront =>
    cases h
    rw [hfront] at hs
    exact .inl ⟨rfl, _, hs⟩
  · cases h
  · cases h
    exact .inr ⟨front, _, rfl, rfl, hs⟩
  · next after hfront =>
    rw [hfront] at hs
    have hafter := spaces_skipBlanks after
    split at h
    · cases h
    · cases h
    · cases h
      exact .inr ⟨after, _, rfl, hs, hafter⟩
  · cases h

theorem passed_eq (hs : Spaces front (c :: rest)) (hc : isSpace c = false) :
    Record.passed c front = rest := by
  rw [Record.passed, skipBlanks_eq hs (.of_cons hc _)]
  exact if_pos (beq_self_eq_true c)

theorem closeArray_eq_ok (h : Record.closeArray front = .ok rest) : Spaces front (']' :: rest) := by
  have hs := spaces_skipBlanks front
  unfold Record.closeArray at h
  split at h
  · next hfront =>
    cases h
    rw [hfront] at hs
    exact hs
  · split at h <;> cases h
  all_goals cases h

/-- An array of all items is closed behind them and nowhere else. -/
theorem closeArray_decode (h : Listed false first list front rest) :
    (Record.closeArray front).toOption = if list = [] then some rest else none := by
  cases h with
  | done hs =>
    rw [Record.closeArray, skipBlanks_eq hs (.of_cons rfl _)]
    rfl
  | entry ha he =>
    rw [if_neg (List.cons_ne_nil _ _)]
    cases hclose : Record.closeArray front with
    | error fault => rfl
    | ok behind =>
      have hs : Spaces front (closing false :: behind) := closeArray_eq_ok hclose
      exact (ha.not_end he hs).elim

theorem items_decode (slots : List (Slot σ)) (h : Listed false (index == 0) (items.map .item) front rest) :
    (record.items index (slots.map Slot.field) state front).toOption =
      (ofItems? record.least index slots state items).map (·, rest) := by
  induction slots generalizing index state front items with
  | nil =>
    rw [List.map_nil, Record.items, toOption_map, closeArray_decode h]
    cases items <;> rfl
  | cons slot slots ih =>
    rw [List.map_cons, Record.items, toOption_bind]
    cases items with
    | nil =>
      cases h with
      | done hs =>
        have hpassed : Record.passed ']' front = rest := passed_eq hs rfl
        rw [nextItem_end hs, ofItems?]
        dsimp only [Except.toOption, Option.bind_some]
        rw [hpassed]
        by_cases hleast : index < record.least
        · rw [if_pos hleast, if_pos hleast]
          rfl
        · rw [if_neg hleast, if_neg hleast]
          rfl
    | cons item items =>
      cases h with
      | entry ha he hstops hrest =>
        cases he with
        | item hs hv =>
          obtain ⟨c, after, rfl, hc⟩ := hv.value_head
          have hvalue := (slot.field_decodes state).value (.refl _ _) hv hstops
          rw [nextItem_item ha hs hc, ofItems?]
          show (slot.field.read state (c :: after) >>= fun next =>
            record.items (index + 1) (slots.map Slot.field) next.1 next.2).toOption = _
          rw [toOption_bind, hvalue, Option.bind_map, Option.bind_map, Option.map_bind]
          exact congrArg _ (funext fun value => ih hrest)

theorem goesOn_of_items (slots : List (Slot σ))
    (h : record.items index (slots.map Slot.field) state front = .ok (final, rest)) :
    GoesOn false (index == 0) front rest := by
  induction slots generalizing index state front with
  | nil =>
    obtain ⟨_, hclose, heq⟩ := map_eq_ok_iff.mp h
    cases heq
    exact .inl (closeArray_eq_ok hclose)
  | cons slot slots ih =>
    rw [List.map_cons, Record.items] at h
    obtain ⟨found, hfound, h⟩ := bind_eq_ok_iff.mp h
    rcases nextItem_eq_ok hfound with ⟨rfl, behind, hs⟩ | ⟨text, start, rfl, ha, hs⟩
    · dsimp only at h
      rw [passed_eq hs rfl] at h
      split at h
      · cases h
      · cases h
        exact .inl hs
    · obtain ⟨⟨_, behind⟩, hread, hitems⟩ := bind_eq_ok_iff.mp h
      obtain ⟨first, hfirst, hv⟩ := (slot.field_decodes state).form hread
      have hentry : Forms (.entry false) text behind := .item (hs.trans hfirst) hv
      exact .inr ⟨text, ha, (ih hitems).several hentry⟩

-- ---------------------------------------------------------------------------
-- Records
-- ---------------------------------------------------------------------------

theorem record_decodes (hfields : record.fields = slots.map Slot.field) :
    Decodes record.read (ofJson? record slots) where
  value {v text start rest} hs hv hstops := by
    rw [Record.read, hv.forms.skipBlanks_eq hs]
    cases hv with
    | array h =>
      rw [ofJson?, ← items_decode slots (.of_reads h), ← hfields]
      rfl
    | object h =>
      rw [ofJson?, ← members_decode hfields (.of_reads h) (Nat.lt_succ_self _)]
      rfl
    | number hn =>
      split
      · exact absurd hn.head (by decide)
      · exact absurd hn.head (by decide)
      · rfl
    | _ => rfl
  form {text a rest} hread := by
    have hs := spaces_skipBlanks text
    rw [Record.read] at hread
    split at hread
    · next hfront =>
      rw [hfront] at hs
      rw [hfields] at hread
      exact ⟨_, hs, .array (goesOn_of_items slots hread).forms⟩
    · next hfront =>
      rw [hfront] at hs
      exact ⟨_, hs, .object (goesOn_of_members hfields hread).forms⟩
    · cases hread

/-- What a record takes from a text is what it takes from the value. -/
theorem ofText_of_isText (hfields : record.fields = slots.map Slot.field) (h : IsText v text) :
    (record.ofText text).toOption = ofJson? record slots v := by
  obtain ⟨start, rest, hs, hv, hend⟩ := h
  have hrest : skipBlanks rest = [] := skipBlanks_eq hend fun _ hc => by cases hc
  rw [Record.ofText, toOption_bind, (record_decodes hfields).value hs hv (stops_of_end hend)]
  cases ofJson? record slots v with
  | none => rfl
  | some final =>
    simp only [Option.map_some, Option.bind_some, hrest]
    rfl

/-- It takes nothing from a text that is not JSON. -/
theorem isJson_of_ofText (hfields : record.fields = slots.map Slot.field)
    (h : record.ofText text = .ok final) : IsJson text := by
  obtain ⟨⟨_, rest⟩, hread, hend⟩ := bind_eq_ok_iff.mp h
  obtain ⟨start, hs, hform⟩ := (record_decodes hfields).form hread
  have hrest := spaces_skipBlanks rest
  dsimp only at hend
  split at hend
  · next hnil =>
    rw [hnil] at hrest
    exact ⟨start, rest, hs, hform, hrest⟩
  · cases hend

end ManifestNotice.Json.Grammar
