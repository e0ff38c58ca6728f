import ManifestNotice.Proofs.Toml.Statements

/-!
# The rules of TOML documents

What the statements of a text define, rule by rule, and that a text is read
just if it is a document by the grammar and by these rules
(`parse?_eq_some_iff`). The entries of a document differ in their names and
stand in the order of the text (`IsDocument.ordered`).
-/

namespace ManifestNotice.Toml

def Statement.keys : Statement → List Key
  | .pair path key _ _ | .table path key _ | .tables path key _ => path ++ [key]

def Statement.isPair : Statement → Bool
  | .pair .. => true
  | _ => false

/-- The names at the top that statements name with their first keys. Pairs do so
as long as there is no header. -/
def namedFirst (top : Bool) : List Statement → List (List Char)
  | [] => []
  | statement :: statements =>
    if top || !statement.isPair then
      (statement.keys.head?.map (·.name)).toList ++ namedFirst (top && statement.isPair) statements
    else namedFirst false statements

namespace Document

-- ---------------------------------------------------------------------------
-- The rules
-- ---------------------------------------------------------------------------

/-- The way down to the table that keys name. What is not there yet is opened on
the way; a value cannot be passed, nor can dotted keys pass a table that has its
own header. Of an array of tables the last one counts. -/
inductive Descends (opened : Definition) : Document → Place → List Key → Document → Place → Prop
  | here {doc place} : Descends opened doc place [] doc place
  | new {doc place key keys doc' place'} : doc.find? (place ++ [(key.name, 0)]) = none →
      Descends opened
        ((doc.define (place ++ [(key.name, 0)]) opened).enter place ⟨key, .map, key.span⟩)
        (place ++ [(key.name, 0)]) keys doc' place' →
      Descends opened doc place (key :: keys) doc' place'
  | last {doc place key keys count doc' place'} :
      doc.find? (place ++ [(key.name, 0)]) = some (.tables count) →
      Descends opened doc (place ++ [(key.name, count)]) keys doc' place' →
      Descends opened doc place (key :: keys) doc' place'
  | headed {doc place key keys doc' place'} :
      doc.find? (place ++ [(key.name, 0)]) = some .table → opened ≠ .dotted →
      Descends opened doc (place ++ [(key.name, 0)]) keys doc' place' →
      Descends opened doc place (key :: keys) doc' place'
  | implied {doc place key keys doc' place'} :
      doc.find? (place ++ [(key.name, 0)]) = some .implicit ∨
        doc.find? (place ++ [(key.name, 0)]) = some .dotted →
      Descends opened doc (place ++ [(key.name, 0)]) keys doc' place' →
      Descends opened doc place (key :: keys) doc' place'

def pair (doc : Document) (place : Place) (key : Key) (value : Value) (span : Span) : Document :=
  ((doc.define (place ++ [(key.name, 0)]) .value).enter place ⟨key, value, span⟩).extend
    doc.current span

/-- A header defines a table at its place, and pairs go there from now on. -/
def table (doc : Document) (place : Place) (key : Key) (span : Span) : Document :=
  { (doc.define (place ++ [(key.name, 0)]) .table).enter place ⟨key, .map, span⟩ with
    current := place ++ [(key.name, 0)] }

/-- Without the entry of that name, if the place is the top. -/
def leave (doc : Document) (place : Place) (key : Key) : Document :=
  if place.isEmpty then { doc with entries := doc.entries.filter (·.key.name != key.name) } else doc

/-- What one statement makes of a document. Nothing is defined twice, except that
- a table may get its own header after headers of tables in it;
- an array of tables gets one more table with each of its headers. -/
inductive Takes : Document → Statement → Document → Prop
  | pair {doc key value span} : doc.find? (doc.current ++ [(key.name, 0)]) = none →
      Takes doc (.pair [] key value span) (doc.pair doc.current key value span)
  | dotted {doc path key value span doc' place} : path ≠ [] →
      Descends .dotted doc doc.current path doc' place → doc'.find? place = some .dotted →
      doc'.find? (place ++ [(key.name, 0)]) = none →
      Takes doc (.pair path key value span) (doc'.pair place key value span)
  | table {doc path key span doc' place} : Descends .implicit doc [] path doc' place →
      doc'.find? (place ++ [(key.name, 0)]) = none →
      Takes doc (.table path key span) (doc'.table place key span)
  | headed {doc path key span doc' place} : Descends .implicit doc [] path doc' place →
      doc'.find? (place ++ [(key.name, 0)]) = some .implicit →
      Takes doc (.table path key span) ((doc'.leave place key).table place key span)
  | first {doc path key span doc' place} : Descends .implicit doc [] path doc' place →
      doc'.find? (place ++ [(key.name, 0)]) = none →
      Takes doc (.tables path key span)
        { (doc'.enter place ⟨key, .sequence, span⟩).define (place ++ [(key.name, 0)])
            (.tables 1) with
          current := place ++ [(key.name, 1)] }
  | further {doc path key span doc' place count} : Descends .implicit doc [] path doc' place →
      doc'.find? (place ++ [(key.name, 0)]) = some (.tables count) →
      Takes doc (.tables path key span)
        { (doc'.extend (place ++ [(key.name, 0)]) span).define (place ++ [(key.name, 0)])
            (.tables (count + 1)) with
          current := place ++ [(key.name, count + 1)] }

inductive Builds : Document → List Statement → Document → Prop
  | nil {doc} : Builds doc [] doc
  | cons {doc statement statements next doc'} : Takes doc statement next →
      Builds next statements doc' → Builds doc (statement :: statements) doc'

-- ---------------------------------------------------------------------------
-- The rules, followed
-- ---------------------------------------------------------------------------

variable {doc doc' next : Document} {place place' : Place} {path : List Key} {key : Key}
  {opened : Definition} {span : Span} {value : Value} {statement : Statement}
  {statements : List Statement}

theorem descends_of_descend? (h : doc.descend? opened place path = some (doc', place')) :
    Descends opened doc place path doc' place' := by
  induction path generalizing doc place with
  | nil =>
    cases h
    exact .here
  | cons key path ih =>
    unfold descend? at h
    dsimp only at h
    split at h
    · next hnone => exact .new hnone (ih h)
    · cases h
    · next count hcount => exact .last hcount (ih h)
    · next htable =>
      split at h
      · cases h
      · next hopened => exact .headed htable (by rintro rfl; exact hopened rfl) (ih h)
    · next himplied => exact .implied (.inl himplied) (ih h)
    · next hdotted => exact .implied (.inr hdotted) (ih h)

theorem Descends.followed (h : Descends opened doc place path doc' place') :
    doc.descend? opened place path = some (doc', place') := by
  induction h with
  | here => rfl
  | new hnone _ ih =>
    rw [descend?]
    simp only [hnone]
    exact ih
  | last hcount _ ih =>
    rw [descend?]
    simp only [hcount]
    exact ih
  | headed htable hopened _ ih =>
    have hne : (opened == Definition.dotted) = false := by
      cases opened <;> first | rfl | exact absurd rfl hopened
    rw [descend?]
    simp only [htable, hne]
    exact ih
  | implied himplied _ ih =>
    rw [descend?]
    rcases himplied with himplied | hdotted
    · simp only [himplied]
      exact ih
    · simp only [hdotted]
      exact ih

@[simp]
theorem current_enter (doc : Document) (place : Place) (entry : Entry) :
    (doc.enter place entry).current = doc.current := by
  unfold enter
  split <;> rfl

theorem define_enter (doc : Document) (place here : Place) (entry : Entry)
    (definition : Definition) :
    (doc.enter place entry).define here definition =
      (doc.define here definition).enter place entry := by
  unfold enter
  split <;> rfl

@[simp]
theorem current_define (doc : Document) (place : Place) (definition : Definition) :
    (doc.define place definition).current = doc.current := rfl

theorem eq_dotted_iff {found : Option Definition} :
    (found != some .dotted) = false ↔ found = some .dotted := by
  rcases found with _ | definition
  · exact ⟨nofun, nofun⟩
  · cases definition <;> first | exact ⟨fun _ => rfl, fun _ => rfl⟩ | exact ⟨nofun, nofun⟩

theorem takes_of_add? (h : doc.add? statement = some next) : Takes doc statement next := by
  cases statement with
  | pair path key value span =>
    obtain ⟨⟨doc', place⟩, hdescend, h⟩ := Option.bind_eq_some_iff.mp h
    have hdescends := descends_of_descend? hdescend
    simp only [Option.ite_none_left_eq_some, current_enter, current_define] at h
    obtain ⟨hdotted, hfree, h⟩ := h
    rw [Option.not_isSome_iff_eq_none] at hfree
    cases h
    by_cases hnil : path = []
    · subst hnil
      cases hdescends
      exact .pair hfree
    · have hpath : path.isEmpty = false := by simpa using hnil
      rw [hpath, Bool.not_false, Bool.true_and, Bool.not_eq_true, eq_dotted_iff] at hdotted
      exact .dotted hnil hdescends hdotted hfree
  | table path key span =>
    obtain ⟨⟨doc', place⟩, hdescend, h⟩ := Option.bind_eq_some_iff.mp h
    have hdescends := descends_of_descend? hdescend
    dsimp only at h
    split at h
    · next hfree =>
      cases h
      exact .table hdescends hfree
    · next himplied =>
      have hheaded := @Takes.headed _ _ key span _ _ hdescends himplied
      split at h
      · next htop =>
        cases h
        rwa [leave, if_pos htop] at hheaded
      · next htop =>
        cases h
        rwa [leave, if_neg htop] at hheaded
    · cases h
  | tables path key span =>
    obtain ⟨⟨doc', place⟩, hdescend, h⟩ := Option.bind_eq_some_iff.mp h
    have hdescends := descends_of_descend? hdescend
    dsimp only at h
    split at h
    · next hfree =>
      cases h
      exact .first hdescends hfree
    · next count hcount =>
      cases h
      exact .further hdescends hcount
    · cases h

theorem Takes.followed (h : Takes doc statement next) : doc.add? statement = some next := by
  cases h with
  | pair hfree => simp [add?, addPair?, descend?, hfree, Document.pair]
  | dotted hpath hdescends hdotted hfree =>
    simp [add?, addPair?, hdescends.followed, hfree, Document.pair, eq_dotted_iff.mpr hdotted]
  | table hdescends hfree => simp [add?, openTable?, hdescends.followed, hfree, Document.table]
  | headed hdescends himplied =>
    rename_i place
    by_cases htop : place = []
    · simp_all [add?, openTable?, hdescends.followed, Document.table, leave]
    · simp [add?, openTable?, hdescends.followed, himplied, Document.table, leave, htop]
  | first hdescends hfree => simp [add?, openElement?, hdescends.followed, hfree]
  | further hdescends hcount => simp [add?, openElement?, hdescends.followed, hcount]

theorem add?_eq_some_iff : doc.add? statement = some next ↔ Takes doc statement next :=
  ⟨takes_of_add?, Takes.followed⟩

theorem foldlM_eq_some_iff : statements.foldlM add? doc = some doc' ↔
    Builds doc statements doc' := by
  induction statements generalizing doc with
  | nil =>
    constructor
    · intro h
      cases h
      exact .nil
    · rintro ⟨⟩
      rfl
  | cons statement statements ih =>
    rw [List.foldlM_cons]
    constructor
    · intro h
      obtain ⟨next, hadd, h⟩ := Option.bind_eq_some_iff.mp h
      exact .cons (add?_eq_some_iff.mp hadd) (ih.mp h)
    · rintro (_ | ⟨htakes, hbuilds⟩)
      rw [add?_eq_some_iff.mpr htakes]
      exact ih.mpr hbuilds

-- ---------------------------------------------------------------------------
-- Names and positions
-- ---------------------------------------------------------------------------

def keys (doc : Document) : List Key := doc.entries.map (·.key)

/-- The entries have the names that are defined at the top, each one once, and
stand in the order of the text in front of the given place in it. -/
structure Ordered (doc : Document) (bound : Nat) : Prop where
  distinct : (doc.keys.map (·.name)).Nodup
  sorted : doc.keys.Pairwise (fun a b => b.span.opened < a.span.opened)
  before : ∀ k ∈ doc.keys, bound < k.span.opened
  defined (name : List Char) : (doc.find? [(name, 0)]).isSome ↔ name ∈ doc.keys.map (·.name)

variable {bound low : Nat} {definition : Definition} {entry : Entry}

theorem find?_define (doc : Document) (place here : Place) (definition : Definition) :
    (doc.define here definition).find? place =
      if here = place then some definition else doc.find? place := by
  by_cases heq : here = place
  · simp [find?, define, heq]
  · simp [find?, define, heq]

theorem Ordered.mono (h : Ordered doc bound) (hlow : low ≤ bound) : Ordered doc low :=
  ⟨h.distinct, h.sorted, fun k hk => Nat.lt_of_le_of_lt hlow (h.before k hk), h.defined⟩

theorem Ordered.move (h : Ordered doc bound) (current : Place) :
    Ordered { doc with current } bound :=
  ⟨h.distinct, h.sorted, h.before, h.defined⟩

theorem Ordered.define (h : Ordered doc bound)
    (hplace : place ≠ [] ∨ (doc.find? (place ++ [(key.name, 0)])).isSome) :
    Ordered (doc.define (place ++ [(key.name, 0)]) definition) bound := by
  refine ⟨h.distinct, h.sorted, h.before, fun name => ?_⟩
  rw [find?_define]
  split
  · next heq =>
    rw [heq] at hplace
    have hdefined : (doc.find? [(name, 0)]).isSome := by
      rcases hplace with hplace | hdefined
      · have hlength := congrArg List.length heq
        have := List.length_pos_iff.mpr hplace
        rw [List.length_append] at hlength
        simp only [List.length_singleton] at hlength
        omega
      · exact hdefined
    exact ⟨fun _ => (h.defined name).mp hdefined, fun _ => rfl⟩
  · exact h.defined name

theorem Ordered.enter_below (h : Ordered doc bound) (hplace : place ≠ []) :
    Ordered (doc.enter place entry) bound := by
  have hempty : place.isEmpty = false := by simpa using hplace
  rw [enter, hempty]
  exact h

theorem keys_enter_top (doc : Document) (entry : Entry) :
    (doc.enter [] entry).keys = doc.keys ++ [entry.key] := List.map_append

theorem ordered_enter_top (hdistinct : (doc.keys.map (·.name)).Nodup)
    (hsorted : doc.keys.Pairwise (fun a b => b.span.opened < a.span.opened))
    (hbefore : ∀ k ∈ doc.keys, bound < k.span.opened) (hnew : key.name ∉ doc.keys.map (·.name))
    (hdefined : ∀ name ≠ key.name,
      (doc.find? [(name, 0)]).isSome ↔ name ∈ doc.keys.map (·.name))
    (hlow : low < key.span.opened) (hbound : key.span.opened ≤ bound) :
    Ordered ((doc.define [(key.name, 0)] definition).enter [] ⟨key, value, span⟩) low := by
  have hkeys : ((doc.define [(key.name, 0)] definition).enter [] ⟨key, value, span⟩).keys =
      doc.keys ++ [key] := keys_enter_top _ _
  refine ⟨?_, ?_, ?_, fun name => ?_⟩
  · rw [hkeys, List.map_append, List.nodup_append]
    refine ⟨hdistinct, List.pairwise_singleton _ _, fun a ha b hb heq => ?_⟩
    rw [heq, List.mem_singleton.mp hb] at ha
    exact hnew ha
  · rw [hkeys, List.pairwise_append]
    refine ⟨hsorted, List.pairwise_singleton _ _, fun a ha b hb => ?_⟩
    rw [List.mem_singleton.mp hb]
    exact Nat.lt_of_le_of_lt hbound (hbefore a ha)
  · rw [hkeys]
    intro k hk
    rcases List.mem_append.mp hk with hk | hk
    · exact Nat.lt_of_lt_of_le (Nat.lt_of_lt_of_le hlow hbound) (Nat.le_of_lt (hbefore k hk))
    · rw [List.mem_singleton.mp hk]
      exact hlow
  · rw [hkeys, List.map_append, List.mem_append]
    show ((doc.define [(key.name, 0)] definition).find? [(name, 0)]).isSome ↔ _
    rw [find?_define]
    split
    · next heq =>
      cases heq
      simp
    · next hne =>
      have hname : name ≠ key.name := fun heq => hne (by rw [heq])
      rw [hdefined name hname]
      simp [hname]

theorem Ordered.put (h : Ordered doc bound) (hfree : doc.find? (place ++ [(key.name, 0)]) = none)
    (hlow : low < key.span.opened) (hbound : key.span.opened ≤ bound) :
    Ordered ((doc.define (place ++ [(key.name, 0)]) definition).enter place ⟨key, value, span⟩)
      low := by
  by_cases hplace : place = []
  · subst hplace
    refine ordered_enter_top h.distinct h.sorted h.before ?_ (fun name _ => h.defined name) hlow
      hbound
    rw [← h.defined, ← List.nil_append [(key.name, 0)], hfree]
    simp
  · exact ((h.define (.inl hplace)).enter_below hplace).mono
      (Nat.le_of_lt (Nat.lt_of_lt_of_le hlow hbound))

theorem keys_extend (doc : Document) (place : Place) (span : Span) :
    (doc.extend place span).keys = doc.keys := by
  unfold extend
  split
  · simp only [keys, List.map_map]
    exact List.map_congr_left fun e _ => by simp only [Function.comp]; split <;> rfl
  · rfl

theorem find?_extend (doc : Document) (place : Place) (span : Span) (here : Place) :
    (doc.extend place span).find? here = doc.find? here := by
  unfold extend
  split <;> rfl

theorem Ordered.extend (h : Ordered doc bound) (place : Place) (span : Span) :
    Ordered (doc.extend place span) bound := by
  refine ⟨?_, ?_, ?_, fun name => ?_⟩
  · rw [keys_extend]
    exact h.distinct
  · rw [keys_extend]
    exact h.sorted
  · rw [keys_extend]
    exact h.before
  · rw [keys_extend, find?_extend]
    exact h.defined name

-- ---------------------------------------------------------------------------
-- What a statement keeps
-- ---------------------------------------------------------------------------

theorem Descends.ordered_below (h : Descends opened doc place path doc' place')
    (hplace : place ≠ []) (hordered : Ordered doc bound) : Ordered doc' bound := by
  induction h with
  | here => exact hordered
  | new _ _ ih => exact ih (by simp) ((hordered.define (.inl hplace)).enter_below hplace)
  | last _ _ ih => exact ih (by simp) hordered
  | headed _ _ _ ih => exact ih (by simp) hordered
  | implied _ _ ih => exact ih (by simp) hordered

theorem Descends.ordered (h : Descends opened doc place path doc' place')
    (hordered : Ordered doc bound) (hlow : low ≤ bound)
    (hpath : ∀ k ∈ path, low < k.span.opened ∧ k.span.opened ≤ bound) : Ordered doc' low := by
  cases h with
  | here => exact hordered.mono hlow
  | @new _ _ key _ _ _ hfree h =>
    obtain ⟨hkey, hbound⟩ := hpath key List.mem_cons_self
    exact h.ordered_below (by simp) (hordered.put hfree hkey hbound)
  | last _ h | headed _ _ h | implied _ h =>
    exact h.ordered_below (by simp) (hordered.mono hlow)

theorem Descends.place_ne (h : Descends opened doc place path doc' place')
    (hpath : place ≠ [] ∨ path ≠ []) : place' ≠ [] := by
  induction h with
  | here => simpa using hpath
  | new _ _ ih | last _ _ ih | headed _ _ _ ih | implied _ _ ih => exact ih (by simp)

theorem Descends.put (h : Descends opened doc place path doc' place')
    (hordered : Ordered doc bound) (hlow : low ≤ bound)
    (hkeys : ∀ k ∈ path ++ [key], low < k.span.opened ∧ k.span.opened ≤ bound)
    (hfree : doc'.find? (place' ++ [(key.name, 0)]) = none) :
    Ordered ((doc'.define (place' ++ [(key.name, 0)]) definition).enter place' ⟨key, value, span⟩)
      low := by
  obtain ⟨hkey, hbound⟩ := hkeys key (by simp)
  by_cases hpath : path = []
  · subst hpath
    cases h
    exact hordered.put hfree hkey hbound
  · have hdescended := h.ordered hordered hlow fun k hk => hkeys k (List.mem_append_left _ hk)
    have hplace := h.place_ne (.inr hpath)
    exact (hdescended.define (.inl hplace)).enter_below hplace

theorem keys_leave_top (doc : Document) (key : Key) :
    (doc.leave [] key).keys = doc.keys.filter (·.name != key.name) := by
  show (doc.entries.filter _).map _ = (doc.entries.map _).filter _
  rw [List.filter_map]
  rfl

/-- A table in whose tables headers were before gets its own; at the top its
entry moves to the end. -/
theorem Descends.reopen (h : Descends .implicit doc [] path doc' place')
    (hordered : Ordered doc bound) (hlow : low ≤ bound)
    (hkeys : ∀ k ∈ path ++ [key], low < k.span.opened ∧ k.span.opened ≤ bound)
    (himplied : doc'.find? (place' ++ [(key.name, 0)]) = some .implicit) :
    Ordered ((doc'.leave place' key).table place' key span) low := by
  obtain ⟨hkey, hbound⟩ := hkeys key (by simp)
  by_cases hpath : path = []
  · subst hpath
    cases h
    have hkept : ((doc.leave [] key).keys).Sublist doc.keys := by
      rw [keys_leave_top]
      exact List.filter_sublist
    have hdistinct := hordered.distinct.sublist (hkept.map (·.name))
    have hbefore := fun k hk => hordered.before k (hkept.subset hk)
    refine (ordered_enter_top hdistinct (hordered.sorted.sublist hkept) hbefore ?_
      (fun name hname => ?_) hkey hbound).move _
    · simp [keys_leave_top]
    · show (doc.find? [(name, 0)]).isSome ↔ _
      rw [hordered.defined, keys_leave_top]
      simp only [List.mem_map, List.mem_filter, bne_iff_ne]
      exact ⟨fun ⟨k, hk, heq⟩ => ⟨k, ⟨hk, heq ▸ hname⟩, heq⟩, fun ⟨k, ⟨hk, _⟩, heq⟩ => ⟨k, hk, heq⟩⟩
  · have hdescended := h.ordered hordered hlow fun k hk => hkeys k (List.mem_append_left _ hk)
    have hplace := h.place_ne (.inr hpath)
    have hempty : place'.isEmpty = false := by simpa using hplace
    rw [leave, hempty]
    exact ((hdescended.define (.inl hplace)).enter_below hplace).move _

theorem Takes.ordered (h : Takes doc statement next) (hordered : Ordered doc bound)
    (hlow : low ≤ bound)
    (hkeys : ∀ k ∈ statement.keys, low < k.span.opened ∧ k.span.opened ≤ bound) :
    Ordered next low := by
  cases h with
  | @pair key _ _ hfree =>
    obtain ⟨hkey, hbound⟩ := hkeys key (by simp [Statement.keys])
    exact (hordered.put hfree hkey hbound).extend _ _
  | dotted hpath hdescends hdotted hfree =>
    exact (hdescends.put hordered hlow hkeys hfree).extend _ _
  | table hdescends hfree => exact (hdescends.put hordered hlow hkeys hfree).move _
  | headed hdescends himplied => exact hdescends.reopen hordered hlow hkeys himplied
  | first hdescends hfree =>
    rw [define_enter]
    exact (hdescends.put hordered hlow hkeys hfree).move _
  | further hdescends hcount =>
    have hdescended := hdescends.ordered hordered hlow fun k hk =>
      hkeys k (List.mem_append_left _ hk)
    refine ((hdescended.extend _ _).define (.inr ?_)).move _
    rw [find?_extend, hcount]
    rfl

-- ---------------------------------------------------------------------------
-- Names at the top
-- ---------------------------------------------------------------------------

theorem isSome_find?_define (doc : Document) (here : Place) (definition : Definition)
    (name : List Char) : ((doc.define here definition).find? [(name, 0)]).isSome ↔
      (doc.find? [(name, 0)]).isSome ∨ here = [(name, 0)] := by
  rw [find?_define]
  split
  · next heq => simp [heq]
  · next hne => simp [hne]

theorem find?_enter (doc : Document) (place : Place) (entry : Entry) (here : Place) :
    (doc.enter place entry).find? here = doc.find? here := by
  unfold enter
  split <;> rfl

theorem append_eq_top {name : List Char} :
    place ++ [(key.name, 0)] = [(name, 0)] ↔ place = [] ∧ key.name = name := by
  cases place <;> simp

/-- On the way down from the top the first key is named there, and no other. -/
theorem Descends.names (h : Descends opened doc place path doc' place') (name : List Char) :
    (doc'.find? [(name, 0)]).isSome ↔ (doc.find? [(name, 0)]).isSome ∨
      place = [] ∧ ∃ key ∈ path.head?, key.name = name := by
  have known {doc : Document} {place : Place} {key : Key} {definition : Definition}
      (h : doc.find? (place ++ [(key.name, 0)]) = some definition)
      (htop : place = [] ∧ key.name = name) : (doc.find? [(name, 0)]).isSome := by
    rw [← append_eq_top.mpr htop, h]
    rfl
  induction h with
  | here => simp
  | new hfree _ ih => simp [ih, find?_enter, isSome_find?_define, append_eq_top]
  | last hfound _ ih | headed hfound _ _ ih =>
    simpa [ih] using fun hplace hname => known hfound ⟨hplace, hname⟩
  | implied hfound _ ih =>
    rcases hfound with hfound | hfound
    all_goals simpa [ih] using fun hplace hname => known hfound ⟨hplace, hname⟩

theorem Descends.names_put (h : Descends opened doc place path doc' place') (name : List Char) :
    ((doc'.define (place' ++ [(key.name, 0)]) definition).find? [(name, 0)]).isSome ↔
      (doc.find? [(name, 0)]).isSome ∨
        place = [] ∧ ∃ k ∈ (path ++ [key]).head?, k.name = name := by
  rw [isSome_find?_define, h.names, append_eq_top]
  by_cases hpath : path = []
  · subst hpath
    cases h
    simp
  · have hplace := h.place_ne (.inr hpath)
    obtain ⟨k, path, rfl⟩ := List.exists_cons_of_ne_nil hpath
    simp [hplace]

def start (doc : Document) : Statement → Place
  | .pair .. => doc.current
  | .table .. | .tables .. => []

theorem find?_table (doc : Document) (place : Place) (key : Key) (span : Span) (here : Place) :
    (doc.table place key span).find? here =
      (doc.define (place ++ [(key.name, 0)]) .table).find? here :=
  find?_enter _ _ _ _

theorem define_leave (doc : Document) (place here : Place) (key : Key) (definition : Definition) :
    (doc.leave place key).define here definition =
      (doc.define here definition).leave place key := by
  unfold leave
  split <;> rfl

theorem find?_leave (doc : Document) (place : Place) (key : Key) (here : Place) :
    (doc.leave place key).find? here = doc.find? here := by
  unfold leave
  split <;> rfl

theorem Takes.names (h : Takes doc statement next) (name : List Char) :
    (next.find? [(name, 0)]).isSome ↔ (doc.find? [(name, 0)]).isSome ∨
      doc.start statement = [] ∧ ∃ key ∈ statement.keys.head?, key.name = name := by
  cases h with
  | pair hfree =>
    rw [Document.pair, find?_extend, find?_enter]
    exact (@Descends.here .dotted doc doc.current).names_put name
  | dotted hpath hdescends hdotted hfree =>
    rw [Document.pair, find?_extend, find?_enter]
    exact hdescends.names_put name
  | table hdescends hfree =>
    rw [find?_table]
    exact hdescends.names_put name
  | headed hdescends himplied =>
    rw [find?_table, define_leave, find?_leave]
    exact hdescends.names_put name
  | @first _ key span doc' place hdescends hfree =>
    show (((doc'.enter place ⟨key, .sequence, span⟩).define _ _).find? _).isSome ↔ _
    rw [define_enter, find?_enter]
    exact hdescends.names_put name
  | @further _ key span doc' place count hdescends hcount =>
    show (((doc'.extend (place ++ [(key.name, 0)]) span).define _ _).find? _).isSome ↔ _
    rw [isSome_find?_define, find?_extend, ← isSome_find?_define _ _ (.tables (count + 1))]
    exact hdescends.names_put name

theorem Descends.current (h : Descends opened doc place path doc' place') :
    doc'.current = doc.current := by
  induction h with
  | here => rfl
  | new _ _ ih => simpa using ih
  | last _ _ ih | headed _ _ _ ih | implied _ _ ih => exact ih

theorem current_pair (doc : Document) (place : Place) (key : Key) (value : Value) (span : Span) :
    (doc.pair place key value span).current = doc.current := by
  unfold Document.pair extend
  split <;> simp

/-- After a header nothing starts from the top but headers. -/
theorem Takes.start (h : Takes doc statement next) :
    next.current.isEmpty = (doc.current.isEmpty && statement.isPair) := by
  cases h with
  | pair => simp [current_pair, Statement.isPair]
  | dotted _ hdescends => simp [current_pair, hdescends.current, Statement.isPair]
  | table | headed => simp [Document.table, Statement.isPair]
  | first | further => simp [Statement.isPair]

theorem start_eq_nil : doc.start statement = [] ↔ doc.current.isEmpty || !statement.isPair := by
  cases statement <;> simp [Document.start, Statement.isPair]

theorem Builds.names (h : Builds doc statements doc') (name : List Char) :
    (doc'.find? [(name, 0)]).isSome ↔ (doc.find? [(name, 0)]).isSome ∨
      name ∈ namedFirst doc.current.isEmpty statements := by
  induction h with
  | nil => simp [namedFirst]
  | cons htakes _ ih =>
    rw [ih, htakes.names, htakes.start, start_eq_nil, namedFirst]
    split
    · next htop => simp [htop, or_assoc]
    · next htop =>
      rw [Bool.or_eq_true, not_or, Bool.not_eq_true] at htop
      simp [htop]

end Document

-- ---------------------------------------------------------------------------
-- Documents
-- ---------------------------------------------------------------------------

theorem Grammar.Path.positions {path : List Key} {text rest : Text}
    (h : Grammar.Path path text rest) :
    ∀ k ∈ path, rest.length < k.span.opened ∧ k.span.opened ≤ text.length := by
  induction h with
  | last | more => grind

theorem Grammar.Stated.positions {statement : Statement} {text rest : Text}
    (h : Grammar.Stated statement text rest) :
    ∀ k ∈ statement.keys, rest.length < k.span.opened ∧ k.span.opened ≤ text.length := by
  cases h with
  | pair h =>
    obtain ⟨hpath, -, hs, hv⟩ := h
    have hshorter := (Grammar.value?_reads depthLimit).shorter hv
    have hpositions := hpath.positions
    grind [Statement.keys]
  | table hpath | tables hpath =>
    have hpositions := hpath.positions
    grind [Statement.keys]

/-- Statement after statement, the entries keep to the order of the text. -/
theorem Document.Builds.ordered {doc doc' : Document} {statements : List Statement} {text : Text}
    (hstates : Grammar.States statements text) (h : Document.Builds doc statements doc')
    (hordered : Document.Ordered doc text.length) : Document.Ordered doc' 0 := by
  induction hstates generalizing doc with
  | blank =>
    cases h
    exact hordered.mono (Nat.zero_le _)
  | blankLine htrail hn _ ih => exact ih h (hordered.mono (by grind))
  | last hs hstated hend =>
    obtain _ | ⟨htakes, ⟨⟩⟩ := h
    have hpositions := hstated.positions
    exact (htakes.ordered hordered (Nat.zero_le _) (by grind))
  | line hs hstated hend hn _ ih =>
    obtain _ | ⟨htakes, h⟩ := h
    have hpositions := hstated.positions
    exact ih h (htakes.ordered hordered (by grind) (by grind))

/-- The text is a document with those entries at the top. -/
def IsDocument (entries : List Entry) (text : Text) : Prop :=
  ∃ statements doc, Grammar.States statements (Grammar.body text) ∧
    Document.Builds {} statements doc ∧ doc.entries = entries

theorem parse?_eq_some_iff {text : Text} {entries : List Entry} :
    parse? text = some entries ↔ IsDocument entries text := by
  constructor
  · intro h
    obtain ⟨statements, hstatements, h⟩ := Option.bind_eq_some_iff.mp h
    obtain ⟨doc, hdoc, h⟩ := Option.bind_eq_some_iff.mp h
    exact ⟨statements, doc, Grammar.statements?_eq_some_iff.mp hstatements,
      Document.foldlM_eq_some_iff.mp hdoc, Option.some.inj h⟩
  · rintro ⟨statements, doc, hstates, hbuilds, rfl⟩
    simp only [parse?, Grammar.statements?_eq_some_iff.mpr hstates,
      Document.foldlM_eq_some_iff.mpr hbuilds, Option.bind_eq_bind, Option.bind_some]

theorem Document.Builds.ordered_text {doc : Document} {statements : List Statement} {text : Text}
    (hstates : Grammar.States statements text) (h : Document.Builds {} statements doc) :
    Document.Ordered doc 0 :=
  h.ordered hstates ⟨.nil, .nil, nofun, fun _ => ⟨nofun, nofun⟩⟩

theorem Document.map_keys (doc : Document) :
    doc.keys.map (·.name) = doc.entries.map (·.key.name) := List.map_map

/-- The entries of a document differ in their names and stand in the order of the
text. -/
theorem IsDocument.ordered {text : Text} {entries : List Entry} (h : IsDocument entries text) :
    (entries.map (·.key.name)).Nodup ∧
      entries.Pairwise (fun a b => b.key.span.opened < a.key.span.opened) := by
  obtain ⟨statements, doc, hstates, hbuilds, rfl⟩ := h
  have hordered := hbuilds.ordered_text hstates
  exact ⟨doc.map_keys ▸ hordered.distinct, List.pairwise_map.mp hordered.sorted⟩

/-- The entries have the names that the statements of the text name first. -/
theorem IsDocument.names {text : Text} {entries : List Entry} (h : IsDocument entries text)
    {statements : List Statement} (hstates : Grammar.States statements (Grammar.body text))
    (name : List Char) :
    name ∈ entries.map (·.key.name) ↔ name ∈ namedFirst true statements := by
  obtain ⟨statements', doc, hstates', hbuilds, rfl⟩ := h
  have hsame := Grammar.statements?_eq_some_iff.mpr hstates
  rw [Grammar.statements?_eq_some_iff.mpr hstates'] at hsame
  obtain rfl := Option.some.inj hsame
  rw [← doc.map_keys, ← (hbuilds.ordered_text hstates).defined, hbuilds.names]
  simp [Document.find?]

end ManifestNotice.Toml
