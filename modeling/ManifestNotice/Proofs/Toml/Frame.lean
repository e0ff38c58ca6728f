import ManifestNotice.Proofs.Toml.Placed

/-!
# Texts around a value

A value under a key at the top, and all that stands around it. What the text
defines but for that value does not hang on how the value is written, or on the
value, if only it is a string (`Frame.isDocument_iff`).
-/

namespace ManifestNotice.Toml

open Json.Grammar (Skips Leaves)
open Grammar (Spaces Trail Newline Stated States Quoted Path Line LineEnd body)

-- ---------------------------------------------------------------------------
-- Lines in front
-- ---------------------------------------------------------------------------

/-- No line, or lines without headers that end in a line break. -/
inductive Leading : List Statement → Text → Prop
  | none : Leading [] []
  | lines {statements words lineBreak} : States statements words →
      (∀ statement ∈ statements, statement.isPair) → Newline lineBreak [] →
      Leading (statements.map (·.moved lineBreak.length)) (words ++ lineBreak)

section
variable {text rest front lineBreak : Text} {statements all : List Statement}

theorem Span.moved_moved (m n : Nat) (span : Span) : (span.moved m).moved n = span.moved (m + n) := by
  simp [Span.moved, Nat.add_assoc]

theorem Key.moved_moved (m n : Nat) (key : Key) : (key.moved m).moved n = key.moved (m + n) := by
  simp [Key.moved, Span.moved_moved]

theorem Statement.moved_moved (m n : Nat) (statement : Statement) :
    (statement.moved m).moved n = statement.moved (m + n) := by
  cases statement <;> simp [Statement.moved, Key.moved_moved, Span.moved_moved]

theorem line_states_iff {line : Option Statement} (h : Line line text rest) (htext : text ≠ []) :
    States all text ↔ ∃ more, States more rest ∧ line.toList ++ more = all := by
  constructor
  · intro hall
    have hread := hall.read (Nat.lt_succ_self _)
    rw [Grammar.lines?_line h htext] at hread
    obtain ⟨more, hmore, heq⟩ := Option.map_eq_some_iff.mp hread
    exact ⟨more, Grammar.states_of_lines? hmore, heq⟩
  · rintro ⟨more, hmore, rfl⟩
    exact Grammar.states_line h hmore

/-- A line with a break behind it is read with any lines that follow. -/
theorem states_append_iff (h : States statements text) (hbreak : Newline lineBreak rest) :
    States all (text ++ lineBreak) ↔ ∃ more, States more rest ∧
      statements.map (·.moved lineBreak.length) ++ more = all := by
  have hne (text : Text) : text ++ lineBreak ≠ [] := by
    cases hbreak <;> simp
  induction h generalizing all with
  | blank htrail =>
    have htrail := htrail.append lineBreak
    exact line_states_iff (.blank (.newline htrail hbreak)) (hne _)
  | blankLine htrail hn _ ih =>
    have htrail := htrail.append lineBreak
    rw [line_states_iff (.blank (.newline htrail (hn.append lineBreak))) (hne _)]
    exact ⟨fun ⟨more, hmore, heq⟩ => heq ▸ ih.mp hmore, fun h => ⟨all, ih.mpr h, rfl⟩⟩
  | last hs hstated htrail =>
    have hs := Grammar.skips_append hs lineBreak
    have htrail := htrail.append lineBreak
    exact line_states_iff (.stated hs (hstated.append _) (.newline htrail hbreak)) (hne _)
  | line hs hstated htrail hn _ ih =>
    have hs := Grammar.skips_append hs lineBreak
    have htrail := htrail.append lineBreak
    have hend := LineEnd.newline htrail (hn.append lineBreak)
    rw [line_states_iff (.stated hs (hstated.append _) hend) (hne _)]
    constructor
    · rintro ⟨lines, hlines, rfl⟩
      obtain ⟨more, hmore, rfl⟩ := ih.mp hlines
      exact ⟨more, hmore, rfl⟩
    · rintro ⟨more, hmore, rfl⟩
      exact ⟨_, ih.mpr ⟨more, hmore, rfl⟩, rfl⟩

theorem Leading.states_iff (h : Leading statements front) (rest : Text) :
    States all (front ++ rest) ↔
      ∃ more, States more rest ∧ statements.map (·.moved rest.length) ++ more = all := by
  cases h with
  | none => simp
  | @lines statements words lineBreak hstates _ hbreak =>
    have hbreak := hbreak.append rest
    rw [List.append_assoc, states_append_iff hstates hbreak]
    simp only [List.map_map, Function.comp_def, Statement.moved_moved, List.length_append]
    rfl

theorem isPair_moved (n : Nat) (statement : Statement) :
    (statement.moved n).isPair = statement.isPair := by
  cases statement <;> rfl

theorem Leading.isPair (h : Leading statements front) :
    ∀ statement ∈ statements, statement.isPair := by
  cases h with
  | none => nofun
  | lines _ hpairs =>
    exact List.forall_mem_map.mpr fun statement hstatement =>
      (isPair_moved _ _).trans (hpairs statement hstatement)

theorem Leading.getLast? (h : Leading statements front) :
    front = [] ∨ front.getLast? = some '\n' := by
  cases h with
  | none => exact .inl rfl
  | lines _ _ hbreak =>
    have hlast : ∀ {lineBreak : Text}, Newline lineBreak [] → lineBreak.getLast? = some '\n' := by
      rintro _ ⟨⟩ <;> rfl
    exact .inr (by rw [List.getLast?_append, hlast hbreak, Option.some_or])

theorem Statement.Within.moved {low high : Nat} {statement : Statement}
    (h : statement.Within low high) (n : Nat) :
    (statement.moved n).Within (low + n) (high + n) := by
  cases statement <;>
    grind [Statement.Within, Statement.moved, Statement.keys, Statement.span, Span.Within,
      Span.moved, Key.moved]

theorem Leading.within (h : Leading statements front) :
    ∀ statement ∈ statements, statement.Within 1 front.length := by
  cases h with
  | none => nofun
  | lines hstates _ hbreak =>
    have hlength := hbreak.length_lt
    refine List.forall_mem_map.mpr fun statement hstatement => ?_
    rw [List.length_append]
    exact ((hstates.within statement hstatement).moved _).mono (by omega) le_rfl

/-- Keys that are followed by a value start no header, and no blank line. -/
theorem line?_keys {keys : List Key} (h : Path keys text rest) :
    line? text = (assignment? (skipSpace text)).bind fun (statement, rest) =>
      (lineEnd? rest).map (some statement, ·) := by
  have hpath := Grammar.path_skipSpace_iff.mpr h
  unfold line?
  split
  · next heq =>
    rw [heq] at hpath
    exact absurd rfl hpath.head_ne
  · rw [Grammar.lineEnd?_skipSpace, Grammar.lineEnd?_keys h.head]
    cases assignment? (skipSpace text) with
    | none => rfl
    | some found =>
      obtain ⟨statement, rest⟩ := found
      simp only [Option.bind_eq_bind, Option.bind_some]
      cases lineEnd? rest <;> rfl

theorem exists_above {middle : Text} (h : Trail text middle) (hn : Newline middle rest) :
    ∃ above, text = above ++ '\n' :: rest := by
  have hrun : ∃ run, text = run ++ middle := by
    cases h with
    | space hs =>
      obtain ⟨run, hrun, -⟩ := hs
      exact ⟨run, hrun⟩
    | comment hs hc =>
      obtain ⟨space, rfl, -⟩ := hs
      obtain ⟨words, rfl, -⟩ := hc
      exact ⟨space ++ '#' :: words, by simp⟩
  obtain ⟨run, rfl⟩ := hrun
  cases hn with
  | feed => exact ⟨run, rfl⟩
  | both => exact ⟨run ++ ['\r'], by simp⟩

theorem value?_quoted {s : List Char} (h : Quoted s text rest) (hdouble : rest.head? ≠ some '"')
    (hsingle : rest.head? ≠ some '\'') (depth : Nat) :
    value? depth text = some (.text s, rest) := by
  have hread := Grammar.simple?_quoted h hdouble hsingle
  cases depth with
  | zero => rwa [value?]
  | succ depth => cases h <;> exact hread

end

-- ---------------------------------------------------------------------------
-- The line of the value
-- ---------------------------------------------------------------------------

/-- What stands around a value at the top, under a key of the name. -/
structure Frame (name : List Char) where
  /-- A byte order mark, or nothing. -/
  mark : Text
  front : Text
  head : Text
  span : Span
  gap : Text
  back : Text
  marks : mark = [] ∨ mark = ['\uFEFF']
  leading : ∃ statements, Leading statements front
  path : Path [⟨name, span⟩] head ('=' :: gap)
  spaces : Spaces gap []
  ends : ∀ c ∈ back.head?, c ≠ '"' ∧ c ≠ '\''

namespace Frame

variable {name value spelling : List Char} (frame : Frame name)

def lower (spelling : Text) : Text := spelling ++ frame.back

def text (spelling : Text) : Text :=
  frame.mark ++ (frame.front ++ (frame.head ++ frame.lower spelling))

/-- The string is spelled there, behind its key. -/
def Spells (value spelling : List Char) : Prop := Quoted value (frame.lower spelling) frame.back

def key (spelling : Text) : Key := ⟨name, frame.span.moved (frame.lower spelling).length⟩

def valueSpan (spelling : Text) : Span := ⟨(frame.lower spelling).length, frame.back.length⟩

def statement (value spelling : List Char) : Statement :=
  .pair [] (frame.key spelling) (.text value) (frame.valueSpan spelling)

def entry (value spelling : List Char) : Entry :=
  ⟨frame.key spelling, .text value, frame.valueSpan spelling⟩

theorem path_lower (spelling : Text) :
    Path [frame.key spelling] (frame.head ++ frame.lower spelling)
      ('=' :: (frame.gap ++ frame.lower spelling)) :=
  frame.path.append (by simp) _

variable {frame}

theorem stated (h : frame.Spells value spelling) :
    Stated (frame.statement value spelling) (frame.head ++ frame.lower spelling) frame.back :=
  .pair (.intro (frame.path_lower spelling) (show 1 ≤ depthLimit by decide)
    (Grammar.skips_append frame.spaces _) (.inl (.text h)))

theorem assignment?_lower (h : frame.Spells value spelling) :
    assignment? (skipSpace (frame.head ++ frame.lower spelling)) =
      some (frame.statement value spelling, frame.back) := by
  have hpath := Grammar.path_skipSpace_iff.mpr (frame.path_lower spelling)
  have hread := hpath.read (show 1 ≤ depthLimit by decide) (.of_cons rfl _) (by simp)
  have hopens := Grammar.leaves_of_opens (Grammar.simple?_reads.head (.text h))
  have hgap := Grammar.skipSpace_eq (Grammar.skips_append frame.spaces (frame.lower spelling)) hopens
  have hvalue := value?_quoted h (fun hc => (frame.ends _ hc).1 rfl)
    (fun hc => (frame.ends _ hc).2 rfl) depthLimit
  rw [List.nil_append] at hgap
  simp only [assignment?, pair?, path?, hread, expect?, Option.bind_eq_bind, Option.bind_some,
    beq_self_eq_true, if_true, hgap, hvalue, splitLast]
  rfl

theorem head_ne : frame.head ≠ [] := by
  have := frame.path.length_lt
  rintro heq
  simp [heq] at this

theorem lower_states_iff (h : frame.Spells value spelling) {all : List Statement} :
    States all (frame.head ++ frame.lower spelling) ↔ ∃ stop more, LineEnd frame.back stop ∧
      States more stop ∧ frame.statement value spelling :: more = all := by
  have hne : frame.head ++ frame.lower spelling ≠ [] := by simp [head_ne]
  cases hend : lineEnd? frame.back with
  | some stop =>
    have hend := Grammar.lineEnd_of_read hend
    have hline : Line (some (frame.statement value spelling)) _ stop :=
      .stated (Skips.refl _ _) (stated h) hend
    rw [line_states_iff hline hne]
    constructor
    · rintro ⟨more, hmore, rfl⟩
      exact ⟨stop, more, hend, hmore, rfl⟩
    · rintro ⟨stop', more, hend', hmore, rfl⟩
      obtain rfl := Option.some.inj (hend.read.symm.trans hend'.read)
      exact ⟨more, hmore, rfl⟩
  | none =>
    constructor
    · intro hall
      have hread := hall.read (Nat.lt_succ_self _)
      rw [lines?, line?_keys (frame.path_lower spelling), assignment?_lower h] at hread
      · simp [hend] at hread
      · exact hne
    · rintro ⟨stop, _, hstop, -⟩
      cases hend.symm.trans hstop.read

-- ---------------------------------------------------------------------------
-- The whole text
-- ---------------------------------------------------------------------------

/-- A byte order mark stands in front or nowhere. -/
theorem unmarked (frame : Frame name) (rest : Text) :
    (frame.front ++ (frame.head ++ rest)).head? ≠ some '\uFEFF' := by
  obtain ⟨statements, hleading⟩ := frame.leading
  generalize frame.front = front at hleading ⊢
  rw [List.head?_append]
  cases hleading with
  | @lines _ words lineBreak hstates _ hbreak =>
    rw [List.head?_append]
    cases hwords : words.head? with
    | some c =>
      rw [Option.some_or, Option.some_or, ← hwords]
      exact hstates.head_ne
    | none => cases hbreak <;> simp
  | none =>
    obtain ⟨c, hc, hkey⟩ := frame.path.head
    obtain ⟨d, head, hhead⟩ := List.exists_cons_of_ne_nil (head_ne : frame.head ≠ [])
    rw [hhead] at hc ⊢
    rintro ⟨⟩
    rw [skipSpace, List.dropWhile_cons_of_neg (by decide)] at hc
    cases hc
    exact absurd hkey (by decide)

theorem body_text (spelling : Text) :
    body (frame.text spelling) = frame.front ++ (frame.head ++ frame.lower spelling) := by
  rcases frame.marks with hmark | hmark
  · rw [text, hmark, List.nil_append]
    exact Grammar.body_eq (frame.unmarked _)
  · rw [text, hmark]
    rfl

/-- The entries that the text has in front of the value, by where they stand in
the lines there, and those that it has behind it. -/
def Divides (frame : Frame name) (old fresh : List Entry) : Prop :=
  ∃ statements doc stop more next, Leading statements frame.front ∧
    Document.Builds {} statements doc ∧ doc.entries = old ∧ doc.find? [(name, 0)] = none ∧
    LineEnd frame.back stop ∧ States more stop ∧
    Document.Builds (doc.behind ⟨name, frame.span⟩) more next ∧ next.entries = fresh

def entries (frame : Frame name) (old fresh : List Entry) (value spelling : List Char) :
    List Entry :=
  old.map (·.moved (frame.head ++ frame.lower spelling).length) ++
    frame.entry value spelling :: fresh

theorem isDocument_iff (h : frame.Spells value spelling) {entries : List Entry} :
    IsDocument entries (frame.text spelling) ↔
      ∃ old fresh, frame.Divides old fresh ∧ frame.entries old fresh value spelling = entries := by
  have hmoved (next : Document) : next.entries.map (·.moved 0) = next.entries := List.map_id _
  have hfirst : Document.Settled [] {} := ⟨nofun, nofun⟩
  constructor
  · rintro ⟨all, doc', hstates, hbuilds, rfl⟩
    obtain ⟨statements, hleading⟩ := frame.leading
    rw [body_text] at hstates
    obtain ⟨below, hbelow, rfl⟩ := (hleading.states_iff _).mp hstates
    obtain ⟨stop, more, hend, hmore, rfl⟩ := (lower_states_iff h).mp hbelow
    obtain ⟨mid, hmid, hbuilds⟩ := Document.builds_append.mp hbuilds
    obtain ⟨doc, hdoc, rfl⟩ := (Document.builds_placed hfirst).mp hmid
    obtain ⟨hs, hcurrent⟩ := hdoc.settled_pairs hleading.isPair hfirst rfl
    obtain ⟨hfree, next, hnext, rfl⟩ := (Document.builds_pair hs hcurrent).mp hbuilds
    refine ⟨_, _, ⟨statements, doc, stop, more, next, hleading, hdoc, rfl, hfree, hend, hmore,
      hnext, rfl⟩, ?_⟩
    simp only [Document.placed, hmoved, List.append_assoc, List.singleton_append]
    rfl
  · rintro ⟨old, fresh, ⟨statements, doc, stop, more, next, hleading, hdoc, rfl, hfree, hend, hmore,
      hnext, rfl⟩, rfl⟩
    obtain ⟨hs, hcurrent⟩ := hdoc.settled_pairs hleading.isPair hfirst rfl
    have hbelow := (lower_states_iff h).mpr ⟨stop, more, hend, hmore, rfl⟩
    have hstates := (hleading.states_iff _).mpr ⟨_, hbelow, rfl⟩
    have hmid := (@Document.builds_placed _ _ statements [] (frame.head ++ frame.lower spelling).length
      hfirst).mpr ⟨doc, hdoc, rfl⟩
    rw [← body_text] at hstates
    refine ⟨_, _, hstates, Document.builds_append.mpr ⟨_, hmid,
      (Document.builds_pair hs hcurrent).mpr ⟨hfree, next, hnext, rfl⟩⟩, ?_⟩
    simp only [Document.placed, hmoved, List.append_assoc, List.singleton_append]
    rfl

theorem Divides.isDocument {old fresh : List Entry} (h : frame.Divides old fresh)
    (hspells : frame.Spells value spelling) :
    IsDocument (frame.entries old fresh value spelling) (frame.text spelling) :=
  (isDocument_iff hspells).mpr ⟨old, fresh, h, rfl⟩

-- ---------------------------------------------------------------------------
-- Where the entries stand
-- ---------------------------------------------------------------------------

theorem Divides.old_within {old fresh : List Entry} (h : frame.Divides old fresh) :
    ∀ e ∈ old, e.Within 1 frame.front.length := by
  obtain ⟨statements, doc, _, _, _, hleading, hdoc, rfl, -⟩ := h
  exact hdoc.within nofun hleading.within

theorem Divides.fresh_within {old fresh : List Entry} (h : frame.Divides old fresh) :
    fresh = [] ∨ ∃ above stop, frame.back = above ++ stop ∧ above.getLast? = some '\n' ∧
      ∀ e ∈ fresh, e.Within 0 stop.length := by
  obtain ⟨_, _, stop, more, next, -, -, -, -, hend, hmore, hnext, rfl⟩ := h
  cases hend with
  | last =>
    cases Grammar.states_nil hmore
    cases hnext
    exact .inl rfl
  | newline htrail hn =>
    obtain ⟨above, hback⟩ := exists_above htrail hn
    refine .inr ⟨above ++ ['\n'], stop, ?_, ?_, hnext.within nofun hmore.within⟩
    · rw [hback, List.append_assoc, List.singleton_append]
    · rw [List.getLast?_append, List.getLast?_singleton, Option.some_or]

end Frame

end ManifestNotice.Toml
