import ManifestNotice.Proofs.Toml.Locality

/-!
# Documents behind entries

Statements do the same to a document if more entries stand in front of its own,
as long as they do not reach these, and so they do if everything stands further
up in the text (`builds_placed`).
-/

namespace ManifestNotice.Toml

def Entry.moved (n : Nat) (entry : Entry) : Entry :=
  ⟨entry.key.moved n, entry.value, entry.span.moved n⟩

theorem Key.name_moved (n : Nat) (key : Key) : (key.moved n).name = key.name := rfl

theorem Statement.moved_zero (statement : Statement) : statement.moved 0 = statement := by
  cases statement <;> simp [Statement.moved, Key.moved, Span.moved]

/-- Headers do not reach it. -/
def Definition.isClosed : Definition → Bool
  | .value | .dotted => true
  | .implicit | .table | .tables _ => false

namespace Document

/-- The entries, moved by so much, behind some older ones. -/
def placed (n : Nat) (old : List Entry) (doc : Document) : Document :=
  { doc with entries := old ++ doc.entries.map (·.moved n) }

def isClosed (doc : Document) (place : Place) : Bool := (doc.find? place).any (·.isClosed)

/-- What has the names of the entries is out of reach: headers do not get there,
and pairs do not go there. -/
structure Settled (old : List Entry) (doc : Document) : Prop where
  closed : ∀ e ∈ old, doc.isClosed [(e.key.name, 0)]
  apart : ∀ e ∈ old, ∀ n, doc.current ≠ [(e.key.name, n)]

variable {doc doc' next : Document} {place place' here : Place} {path : List Key} {key : Key}
  {opened definition : Definition} {span : Span} {value : Value} {statement : Statement}
  {statements more : List Statement} {old : List Entry} {entry : Entry} {n : Nat}

-- ---------------------------------------------------------------------------
-- What stays settled
-- ---------------------------------------------------------------------------

theorem isClosed_enter (doc : Document) (place : Place) (entry : Entry) (here : Place) :
    (doc.enter place entry).isClosed here = doc.isClosed here := by
  rw [isClosed, find?_enter, isClosed]

theorem isClosed_extend (doc : Document) (place : Place) (span : Span) (here : Place) :
    (doc.extend place span).isClosed here = doc.isClosed here := by
  rw [isClosed, find?_extend, isClosed]

theorem isClosed_leave (doc : Document) (place : Place) (key : Key) (here : Place) :
    (doc.leave place key).isClosed here = doc.isClosed here := by
  rw [isClosed, find?_leave, isClosed]

theorem isClosed_of_free (h : doc.find? here = none) : doc.isClosed here = false := by
  rw [isClosed, h]
  rfl

theorem isClosed_of_found (h : doc.find? here = some definition) :
    doc.isClosed here = definition.isClosed := by
  rw [isClosed, h]
  rfl

theorem current_extend (doc : Document) (place : Place) (span : Span) :
    (doc.extend place span).current = doc.current := by
  unfold extend
  split <;> rfl

theorem Settled.ne (h : Settled old doc) (hopen : doc.isClosed [(key.name, 0)] = false) :
    ∀ e ∈ old, e.key.name ≠ key.name := by
  intro e he heq
  have hclosed := h.closed e he
  rw [heq, hopen] at hclosed
  cases hclosed

theorem Settled.define (h : Settled old doc) (hopen : doc.isClosed here = false)
    (definition : Definition) : Settled old (doc.define here definition) where
  closed e he := by
    rw [isClosed, find?_define, if_neg]
    · exact h.closed e he
    · rintro rfl
      exact Bool.false_ne_true (hopen.symm.trans (h.closed e he))
  apart := h.apart

theorem Settled.enter (h : Settled old doc) (place : Place) (entry : Entry) :
    Settled old (doc.enter place entry) where
  closed e he := by
    rw [isClosed_enter]
    exact h.closed e he
  apart := by
    rw [current_enter]
    exact h.apart

theorem Settled.extend (h : Settled old doc) (place : Place) (span : Span) :
    Settled old (doc.extend place span) where
  closed e he := by
    rw [isClosed_extend]
    exact h.closed e he
  apart := by
    rw [current_extend]
    exact h.apart

theorem Settled.move (h : Settled old doc) (hs : Settled old next)
    (hopen : doc.isClosed (place ++ [(key.name, 0)]) = false) (count : Nat) :
    Settled old { next with current := place ++ [(key.name, count)] } where
  closed := hs.closed
  apart e he m heq := by
    cases place with
    | nil =>
      obtain ⟨hname, -⟩ := Prod.mk.inj (List.cons.inj heq).1
      exact h.ne hopen e he hname.symm
    | cons => simp at heq

theorem Settled.leave (h : Settled old doc) (place : Place) (key : Key) :
    Settled old (doc.leave place key) where
  closed e he := by
    rw [isClosed_leave]
    exact h.closed e he
  apart := by
    unfold Document.leave
    split <;> exact h.apart

theorem Descends.settled (h : Descends opened doc place path doc' place')
    (hs : Settled old doc) : Settled old doc' := by
  induction h with
  | here => exact hs
  | new hfree _ ih => exact ih ((hs.define (isClosed_of_free hfree) _).enter _ _)
  | last _ _ ih | headed _ _ _ ih | implied _ _ ih => exact ih hs

theorem Takes.settled (h : Takes doc statement next) (hs : Settled old doc) : Settled old next := by
  cases h with
  | pair hfree => exact ((hs.define (isClosed_of_free hfree) _).enter _ _).extend _ _
  | dotted _ hdescends _ hfree =>
    exact (((hdescends.settled hs).define (isClosed_of_free hfree) _).enter _ _).extend _ _
  | table hdescends hfree =>
    have hs := hdescends.settled hs
    have hopen := isClosed_of_free hfree
    exact hs.move ((hs.define hopen _).enter _ _) hopen 0
  | headed hdescends himplied =>
    have hs := hdescends.settled hs
    have hopen := isClosed_of_found himplied
    exact hs.move (((hs.leave _ _).define ((isClosed_leave _ _ _ _).trans hopen) _).enter _ _) hopen 0
  | first hdescends hfree =>
    have hs := hdescends.settled hs
    have hopen := isClosed_of_free hfree
    exact hs.move ((hs.enter _ _).define ((isClosed_enter _ _ _ _).trans hopen) _) hopen 1
  | @further _ _ _ _ _ count hdescends hcount =>
    have hs := hdescends.settled hs
    have hopen := isClosed_of_found hcount
    exact hs.move ((hs.extend _ _).define ((isClosed_extend _ _ _ _).trans hopen) _) hopen _

-- ---------------------------------------------------------------------------
-- Statements on placed documents
-- ---------------------------------------------------------------------------

theorem enter_placed (n : Nat) (old : List Entry) (doc : Document) (place : Place)
    (entry : Entry) :
    (doc.placed n old).enter place (entry.moved n) = (doc.enter place entry).placed n old := by
  unfold enter
  split <;> simp [placed]

theorem descend?_placed (doc : Document) (opened : Definition) (place : Place) (path : List Key) :
    (doc.placed n old).descend? opened place (path.map (·.moved n)) =
      (doc.descend? opened place path).map fun (doc, place) => (doc.placed n old, place) := by
  induction path generalizing doc place with
  | nil => rfl
  | cons key path ih =>
    have hfind : (doc.placed n old).find? (place ++ [((key.moved n).name, 0)]) =
        doc.find? (place ++ [(key.name, 0)]) := rfl
    have hnew := enter_placed n old (doc.define (place ++ [(key.name, 0)]) opened) place
      ⟨key, .map, key.span⟩
    rw [List.map_cons, descend?, descend?]
    simp only [hfind]
    split
    · rw [← ih, ← hnew]
      rfl
    · rfl
    · exact ih _ _
    · split
      · rfl
      · exact ih _ _
    · exact ih _ _
    · exact ih _ _

theorem find?_placed (doc : Document) (here : Place) :
    (doc.placed n old).find? here = doc.find? here := rfl

theorem extend_placed (n : Nat) (h : ∀ e ∈ old, ∀ m, place ≠ [(e.key.name, m)]) (doc : Document)
    (span : Span) :
    (doc.placed n old).extend place (span.moved n) = (doc.extend place span).placed n old := by
  match place with
  | [] | _ :: _ :: _ => rfl
  | [(name, m)] =>
    have hold : ∀ e ∈ old, (e.key.name == name) = false := fun e he => by
      rw [beq_eq_false_iff_ne]
      rintro rfl
      exact h e he m rfl
    have hkept : (old.map fun e => if e.key.name == name then
        { e with span := { e.span with closed := (span.moved n).closed } } else e) = old :=
      (List.map_congr_left fun e he => by rw [hold e he]; rfl).trans (List.map_id _)
    simp only [extend, placed, List.map_append, List.map_map, hkept]
    congr 2
    refine List.map_congr_left fun e _ => ?_
    show (if e.key.name == name then _ else _) = Entry.moved n (if e.key.name == name then _ else e)
    split <;> rfl

theorem addPair?_placed (hs : Settled old doc) :
    (doc.placed n old).addPair? (path.map (·.moved n)) (key.moved n) value (span.moved n) =
      (doc.addPair? path key value span).map (·.placed n old) := by
  have hdescended : (doc.placed n old).descend? .dotted (doc.placed n old).current
      (path.map (·.moved n)) = _ := descend?_placed doc .dotted doc.current path
  rw [addPair?, addPair?, hdescended]
  cases hd : doc.descend? .dotted doc.current path with
  | none => rfl
  | some way =>
    obtain ⟨doc', place⟩ := way
    have hs := (descends_of_descend? hd).settled hs
    have hput := enter_placed n old (doc'.define (place ++ [(key.name, 0)]) .value) place
      ⟨key, value, span⟩
    have hextended := extend_placed n hs.apart
      ((doc'.define (place ++ [(key.name, 0)]) .value).enter place ⟨key, value, span⟩) span
    rw [← hput] at hextended
    simp only [Option.map_some, Option.bind_eq_bind, Option.bind_some, find?_placed,
      List.isEmpty_map, Key.name_moved, current_enter, current_define, apply_ite (Option.map _),
      Option.map_none]
    exact congrArg (ite _ none <| ite _ none <| some ·) hextended

theorem leave_placed (n : Nat) (hopen : ∀ e ∈ old, place = [] → e.key.name ≠ key.name)
    (doc : Document) :
    (doc.placed n old).leave place (key.moved n) = (doc.leave place key).placed n old := by
  cases place with
  | cons => rfl
  | nil =>
    have hkept : old.filter (·.key.name != key.name) = old :=
      List.filter_eq_self.mpr fun e he => by simpa using hopen e he rfl
    simp only [leave, placed, List.filter_append, List.filter_map]
    show ({ doc with entries := old.filter _ ++ _ } : Document) = _
    rw [Key.name_moved, hkept]
    rfl

theorem table_placed (n : Nat) (old : List Entry) (doc : Document) (place : Place) (key : Key)
    (span : Span) :
    (doc.placed n old).table place (key.moved n) (span.moved n) =
      (doc.table place key span).placed n old := by
  have hput := enter_placed n old (doc.define (place ++ [(key.name, 0)]) .table) place
    ⟨key, .map, span⟩
  exact congrArg (fun doc => { doc with current := place ++ [(key.name, 0)] }) hput

theorem openTable?_placed (hs : Settled old doc) :
    (doc.placed n old).openTable? (path.map (·.moved n)) (key.moved n) (span.moved n) =
      (doc.openTable? path key span).map (·.placed n old) := by
  rw [openTable?, openTable?, descend?_placed]
  cases hd : doc.descend? .implicit [] path with
  | none => rfl
  | some way =>
    obtain ⟨doc', place⟩ := way
    have hs := (descends_of_descend? hd).settled hs
    simp only [Option.map_some, Option.bind_eq_bind, Option.bind_some, find?_placed,
      Key.name_moved]
    cases hfind : doc'.find? (place ++ [(key.name, 0)]) with
    | none => exact congrArg some (table_placed n old doc' place key span)
    | some definition =>
      cases definition with
      | implicit =>
        have hopen : ∀ e ∈ old, place = [] → e.key.name ≠ key.name := by
          rintro e he rfl
          exact hs.ne (isClosed_of_found hfind) e he
        have htable := table_placed n old (doc'.leave place key) place key span
        rw [← leave_placed n hopen] at htable
        cases place <;> exact congrArg some htable
      | value | dotted | table | tables => rfl

theorem openElement?_placed (hs : Settled old doc) :
    (doc.placed n old).openElement? (path.map (·.moved n)) (key.moved n) (span.moved n) =
      (doc.openElement? path key span).map (·.placed n old) := by
  rw [openElement?, openElement?, descend?_placed]
  cases hd : doc.descend? .implicit [] path with
  | none => rfl
  | some way =>
    obtain ⟨doc', place⟩ := way
    have hs := (descends_of_descend? hd).settled hs
    simp only [Option.map_some, Option.bind_eq_bind, Option.bind_some, find?_placed,
      Key.name_moved]
    cases hfind : doc'.find? (place ++ [(key.name, 0)]) with
    | none =>
      have hput := enter_placed n old doc' place ⟨key, .sequence, span⟩
      exact congrArg (fun doc => some { doc.define (place ++ [(key.name, 0)]) (.tables 1) with
        current := place ++ [(key.name, 1)] }) hput
    | some definition =>
      cases definition with
      | tables count =>
        have hopen := (hs.move hs (isClosed_of_found hfind) 0).apart
        have hextended := extend_placed n hopen doc' span
        exact congrArg (fun doc => some { doc.define (place ++ [(key.name, 0)])
          (.tables (count + 1)) with current := place ++ [(key.name, count + 1)] }) hextended
      | value | dotted | implicit | table => rfl

theorem add?_placed (hs : Settled old doc) (statement : Statement) :
    (doc.placed n old).add? (statement.moved n) = (doc.add? statement).map (·.placed n old) := by
  cases statement with
  | pair => exact addPair?_placed hs
  | table => exact openTable?_placed hs
  | tables => exact openElement?_placed hs

theorem foldlM_placed (hs : Settled old doc) (statements : List Statement) :
    (statements.map (·.moved n)).foldlM add? (doc.placed n old) =
      (statements.foldlM add? doc).map (·.placed n old) := by
  induction statements generalizing doc with
  | nil => rfl
  | cons statement statements ih =>
    rw [List.map_cons, List.foldlM_cons, List.foldlM_cons, add?_placed hs]
    cases hadd : doc.add? statement with
    | none => rfl
    | some next => exact ih ((add?_eq_some_iff.mp hadd).settled hs)

/-- What comes of statements, whatever stands in front of the entries. -/
theorem builds_placed (hs : Settled old doc) : Builds (doc.placed n old) (statements.map (·.moved n))
    doc' ↔ ∃ next, Builds doc statements next ∧ next.placed n old = doc' := by
  simp only [← foldlM_eq_some_iff, foldlM_placed hs, Option.map_eq_some_iff]

-- ---------------------------------------------------------------------------
-- Pairs before any header
-- ---------------------------------------------------------------------------

/-- Entries of pairs are out of reach from the start. -/
theorem Settled.put (hs : Settled doc.entries doc) (hcurrent : doc.current = [])
    (hfree : doc.find? (place ++ [(key.name, 0)]) = none) (definition : Definition)
    (hclosed : definition.isClosed) (value : Value) (span : Span) :
    let next := (doc.define (place ++ [(key.name, 0)]) definition).enter place ⟨key, value, span⟩
    Settled next.entries next := by
  intro next
  have hkept : Settled doc.entries next := (hs.define (isClosed_of_free hfree) _).enter _ _
  cases place with
  | cons => exact hkept
  | nil =>
    have hentries : next.entries = doc.entries ++ [⟨key, value, span⟩] := rfl
    have hfound : next.find? [(key.name, 0)] = some definition := by
      rw [find?_enter, List.nil_append, find?_define, if_pos rfl]
    rw [hentries]
    refine ⟨fun e he => ?_, fun e _ n => ?_⟩
    · rcases List.mem_append.mp he with he | he
      · exact hkept.closed e he
      · rw [List.mem_singleton.mp he, isClosed_of_found hfound]
        exact hclosed
    · rw [current_enter, current_define, hcurrent]
      exact nofun

theorem Descends.settled_dotted (h : Descends .dotted doc place path doc' place')
    (hs : Settled doc.entries doc) (hcurrent : doc.current = []) : Settled doc'.entries doc' := by
  induction h with
  | here => exact hs
  | new hfree _ ih => exact ih (hs.put hcurrent hfree .dotted rfl _ _) (by simpa using hcurrent)
  | last _ _ ih | headed _ _ _ ih | implied _ _ ih => exact ih hs hcurrent

theorem Takes.settled_pair (h : Takes doc statement next) (hpair : statement.isPair)
    (hs : Settled doc.entries doc) (hcurrent : doc.current = []) :
    Settled next.entries next ∧ next.current = [] := by
  have hstart := h.start
  rw [hpair, hcurrent] at hstart
  refine ⟨?_, List.isEmpty_iff.mp hstart⟩
  cases h with
  | pair hfree =>
    rw [Document.pair, hcurrent]
    rw [hcurrent] at hfree
    exact hs.put hcurrent hfree .value rfl _ _
  | dotted hpath hdescends hdotted hfree =>
    have hs := hdescends.settled_dotted hs hcurrent
    have hcurrent := hdescends.current.trans hcurrent
    rw [Document.pair, hcurrent]
    exact hs.put hcurrent hfree .value rfl _ _
  | table | headed | first | further => cases hpair

theorem Builds.settled_pairs (h : Builds doc statements doc')
    (hpairs : ∀ statement ∈ statements, statement.isPair) (hs : Settled doc.entries doc)
    (hcurrent : doc.current = []) : Settled doc'.entries doc' ∧ doc'.current = [] := by
  induction h with
  | nil => exact ⟨hs, hcurrent⟩
  | cons htakes _ ih =>
    obtain ⟨hpair, hpairs⟩ := List.forall_mem_cons.mp hpairs
    obtain ⟨hs, hcurrent⟩ := htakes.settled_pair hpair hs hcurrent
    exact ih hpairs hs hcurrent

theorem builds_append : Builds doc (statements ++ more) doc' ↔
    ∃ next, Builds doc statements next ∧ Builds next more doc' := by
  simp only [← foldlM_eq_some_iff, List.foldlM_append, Option.bind_eq_bind, Option.bind_eq_some_iff]

/-- The document with a value at the top, without its entries. -/
def behind (doc : Document) (key : Key) : Document :=
  { doc.define [(key.name, 0)] .value with entries := [] }

theorem pair_placed (hcurrent : doc.current = []) :
    (doc.placed n []).pair [] key value span =
      (doc.behind key).placed 0 (doc.entries.map (·.moved n) ++ [⟨key, value, span⟩]) := by
  simp [Document.pair, placed, enter, define, extend, hcurrent, behind]

theorem Settled.behind (hs : Settled doc.entries doc) (hcurrent : doc.current = [])
    (hfree : doc.find? [(key.name, 0)] = none) (n : Nat) (value : Value) (span : Span) :
    Settled (doc.entries.map (·.moved n) ++ [⟨key, value, span⟩]) (doc.behind key) := by
  have hdefined := hs.define (isClosed_of_free hfree) .value
  refine ⟨fun e he => ?_, fun e _ m heq => by cases hcurrent.symm.trans heq⟩
  rcases List.mem_append.mp he with he | he
  · obtain ⟨own, hown, rfl⟩ := List.mem_map.mp he
    exact hdefined.closed own hown
  · rw [List.mem_singleton.mp he]
    have hfound : (doc.behind key).find? [(key.name, 0)] = some .value :=
      (find?_define ..).trans (if_pos rfl)
    exact isClosed_of_found hfound

/-- A pair at the top, and what follows it: its entry is out of reach, and so are
those in front. -/
theorem builds_pair (hs : Settled doc.entries doc) (hcurrent : doc.current = []) :
    Builds (doc.placed n []) (.pair [] key value span :: statements) doc' ↔
      doc.find? [(key.name, 0)] = none ∧ ∃ next, Builds (doc.behind key) statements next ∧
        next.placed 0 (doc.entries.map (·.moved n) ++ [⟨key, value, span⟩]) = doc' := by
  have hmoved : statements.map (·.moved 0) = statements := by simp [Statement.moved_zero]
  have hplace : (doc.placed n []).current ++ [(key.name, 0)] = [(key.name, 0)] := by
    show doc.current ++ _ = _
    rw [hcurrent, List.nil_append]
  constructor
  · rintro (_ | ⟨htakes, hbuilds⟩)
    cases htakes with
    | dotted hne => exact absurd rfl hne
    | pair hfree =>
      rw [hplace] at hfree
      have hbehind := hs.behind hcurrent hfree n value span
      rw [show (doc.placed n []).current = [] from hcurrent, pair_placed hcurrent, ← hmoved,
        builds_placed hbehind] at hbuilds
      exact ⟨hfree, hbuilds⟩
  · rintro ⟨hfree, hbuilds⟩
    have hbehind := hs.behind hcurrent hfree n value span
    rw [← builds_placed hbehind, hmoved, ← pair_placed hcurrent] at hbuilds
    have htakes := @Takes.pair (doc.placed n []) key value span (by rw [hplace]; exact hfree)
    rw [show (doc.placed n []).current = [] from hcurrent] at htakes
    exact .cons htakes hbuilds

end Document

-- ---------------------------------------------------------------------------
-- Positions of entries
-- ---------------------------------------------------------------------------

def Span.Within (low high : Nat) (span : Span) : Prop :=
  low ≤ span.closed ∧ low ≤ span.opened ∧ span.opened ≤ high

def Statement.span : Statement → Span
  | .pair _ _ _ span | .table _ _ span | .tables _ _ span => span

def Statement.Within (low high : Nat) (statement : Statement) : Prop :=
  (∀ key ∈ statement.keys, key.span.Within low high) ∧ statement.span.Within low high

def Entry.Within (low high : Nat) (entry : Entry) : Prop :=
  entry.key.span.Within low high ∧ entry.span.Within low high

namespace Document

variable {doc doc' next : Document} {place place' : Place} {path : List Key} {key : Key}
  {opened : Definition} {span : Span} {statement : Statement} {statements : List Statement}
  {entry : Entry} {low high : Nat}

theorem within_enter (h : ∀ e ∈ doc.entries, e.Within low high) (hentry : entry.Within low high) :
    ∀ e ∈ (doc.enter place entry).entries, e.Within low high := by
  unfold enter
  split
  · intro e he
    rcases List.mem_append.mp he with he | he
    · exact h e he
    · rw [List.mem_singleton.mp he]
      exact hentry
  · exact h

theorem within_extend (h : ∀ e ∈ doc.entries, e.Within low high) (hspan : span.Within low high) :
    ∀ e ∈ (doc.extend place span).entries, e.Within low high := by
  unfold extend
  split
  · refine List.forall_mem_map.mpr fun e he => ?_
    obtain ⟨hkey, -, hopened⟩ := h e he
    split
    · exact ⟨hkey, hspan.1, hopened⟩
    · exact h e he
  · exact h

theorem within_leave (h : ∀ e ∈ doc.entries, e.Within low high) :
    ∀ e ∈ (doc.leave place key).entries, e.Within low high := by
  unfold leave
  split
  · exact fun e he => h e (List.mem_filter.mp he).1
  · exact h

theorem Descends.within (h : Descends opened doc place path doc' place')
    (hdoc : ∀ e ∈ doc.entries, e.Within low high) (hpath : ∀ k ∈ path, k.span.Within low high) :
    ∀ e ∈ doc'.entries, e.Within low high := by
  induction h with
  | here => exact hdoc
  | new _ _ ih =>
    obtain ⟨hkey, hpath⟩ := List.forall_mem_cons.mp hpath
    exact ih (within_enter hdoc ⟨hkey, hkey⟩) hpath
  | last _ _ ih | headed _ _ _ ih | implied _ _ ih =>
    exact ih hdoc (List.forall_mem_cons.mp hpath).2

theorem Takes.within (h : Takes doc statement next) (hdoc : ∀ e ∈ doc.entries, e.Within low high)
    (hstatement : statement.Within low high) : ∀ e ∈ next.entries, e.Within low high := by
  obtain ⟨hkeys, hspan⟩ := hstatement
  cases h with
  | @pair key =>
    exact within_extend (within_enter hdoc ⟨hkeys key (by simp [Statement.keys]), hspan⟩) hspan
  | @dotted path key _ _ _ _ _ hdescends =>
    have hdoc := hdescends.within hdoc fun k hk => hkeys k (List.mem_append_left _ hk)
    exact within_extend (within_enter hdoc ⟨hkeys key (by simp [Statement.keys]), hspan⟩) hspan
  | @table path key _ _ _ hdescends =>
    have hdoc := hdescends.within hdoc fun k hk => hkeys k (List.mem_append_left _ hk)
    exact within_enter hdoc ⟨hkeys key (by simp [Statement.keys]), hspan⟩
  | @headed path key _ _ _ hdescends =>
    have hdoc := hdescends.within hdoc fun k hk => hkeys k (List.mem_append_left _ hk)
    exact within_enter (within_leave hdoc) ⟨hkeys key (by simp [Statement.keys]), hspan⟩
  | @first path key _ _ _ hdescends =>
    have hdoc := hdescends.within hdoc fun k hk => hkeys k (List.mem_append_left _ hk)
    exact within_enter hdoc ⟨hkeys key (by simp [Statement.keys]), hspan⟩
  | @further path key _ _ _ _ hdescends =>
    have hdoc := hdescends.within hdoc fun k hk => hkeys k (List.mem_append_left _ hk)
    exact within_extend hdoc hspan

theorem Builds.within (h : Builds doc statements doc') (hdoc : ∀ e ∈ doc.entries, e.Within low high)
    (hstatements : ∀ statement ∈ statements, statement.Within low high) :
    ∀ e ∈ doc'.entries, e.Within low high := by
  induction h with
  | nil => exact hdoc
  | cons htakes _ ih =>
    obtain ⟨hstatement, hstatements⟩ := List.forall_mem_cons.mp hstatements
    exact ih (htakes.within hdoc hstatement) hstatements

end Document

theorem Span.Within.mono {low high low' high' : Nat} {span : Span} (h : span.Within low high)
    (hlow : low' ≤ low) (hhigh : high ≤ high') : span.Within low' high' :=
  ⟨hlow.trans h.1, hlow.trans h.2.1, h.2.2.trans hhigh⟩

theorem Statement.Within.mono {low high low' high' : Nat} {statement : Statement}
    (h : statement.Within low high) (hlow : low' ≤ low) (hhigh : high ≤ high') :
    statement.Within low' high' :=
  ⟨fun key hkey => (h.1 key hkey).mono hlow hhigh, h.2.mono hlow hhigh⟩

namespace Grammar

variable {text rest : Text} {statement : Statement} {statements : List Statement}

theorem Path.within {path : List Key} (h : Path path text rest) :
    ∀ k ∈ path, k.span.Within rest.length text.length := by
  induction h with
  | last | more => grind [Span.Within]

theorem Stated.within (h : Stated statement text rest) :
    statement.Within rest.length text.length := by
  cases h with
  | pair h =>
    obtain ⟨hpath, -, hs, hv⟩ := h
    have hshorter := (value?_reads depthLimit).shorter hv
    have hwithin := hpath.within
    grind [Span.Within, Statement.Within, Statement.keys, Statement.span]
  | table hpath | tables hpath =>
    have hwithin := hpath.within
    grind [Span.Within, Statement.Within, Statement.keys, Statement.span]

theorem States.within (h : States statements text) :
    ∀ statement ∈ statements, statement.Within 0 text.length := by
  induction h with
  | blank => nofun
  | blankLine htrail hn _ ih =>
    have hlower := htrail.length_le
    exact fun statement hstatement => (ih statement hstatement).mono le_rfl (by grind)
  | last hs hstated =>
    have hwithin := hstated.within
    exact List.forall_mem_singleton.mpr (hwithin.mono (Nat.zero_le _) (by grind))
  | line hs hstated htrail hn _ ih =>
    have hwithin := hstated.within
    refine List.forall_mem_cons.mpr ⟨hwithin.mono (Nat.zero_le _) (by grind), ?_⟩
    exact fun statement hstatement => (ih statement hstatement).mono le_rfl (by grind)

end Grammar

end ManifestNotice.Toml
