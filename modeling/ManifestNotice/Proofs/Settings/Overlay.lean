import ManifestNotice.Proofs.FileTree
import ManifestNotice.Proofs.Text.Utf8
import ManifestNotice.Proofs.Toml.Document
import ManifestNotice.Settings.Load

/-!
# What a settings file says

A settings file is refused as malformed just if its text is no document, taken
just if all entries are texts under the names of settings, and refused for the
first entry that is not otherwise (`loadFile_judged`).
-/

namespace ManifestNotice.Settings

variable {entries before after : List Toml.Entry} {entry : Toml.Entry} {settings : Settings}
  {setting : Setting} {offence : Offence} {text : List Char}

-- ---------------------------------------------------------------------------
-- Entries and what they give
-- ---------------------------------------------------------------------------

def Gives (entry : Toml.Entry) (setting : Setting) (value : List Char) : Prop :=
  entry.key.name = setting.key.toList ∧ entry.value = .text value

def Fits (entry : Toml.Entry) : Prop := ∃ setting value, Gives entry setting value

/-- The settings that the entries give, and those of the base for the rest. -/
structure Overlaid (base : Settings) (entries : List Toml.Entry) (settings : Settings) :
    Prop where
  fits : ∀ entry ∈ entries, Fits entry
  given : ∀ entry ∈ entries, ∀ setting value, Gives entry setting value →
    settings.get setting = String.ofList value
  kept : ∀ setting : Setting, (∀ entry ∈ entries, entry.key.name ≠ setting.key.toList) →
    settings.get setting = base.get setting

/-- What is wrong with an entry: its name before its value. -/
inductive Offends (entry : Toml.Entry) : Offence → Prop
  | unknown : (∀ setting : Setting, entry.key.name ≠ setting.key.toList) →
      Offends entry ⟨.unknownKey entry.key.name, entry.key.span⟩
  | kind {setting : Setting} : entry.key.name = setting.key.toList →
      (∀ value, entry.value ≠ .text value) → Offends entry ⟨.notText entry.value, entry.span⟩

-- ---------------------------------------------------------------------------
-- Entry by entry
-- ---------------------------------------------------------------------------

theorem ofKey?_ofList_iff {name : List Char} :
    Setting.ofKey? (String.ofList name) = some setting ↔ name = setting.key.toList := by
  constructor
  · intro h
    have := List.find?_some h
    rw [beq_iff_eq] at this
    rw [this, String.toList_ofList]
  · rintro rfl
    rw [String.ofList_toList]
    exact Setting.ofKey?_key setting

theorem ofKey?_ofList_eq_none_iff {name : List Char} :
    Setting.ofKey? (String.ofList name) = none ↔
      ∀ setting : Setting, name ≠ setting.key.toList := by
  rw [Option.eq_none_iff_forall_ne_some]
  exact forall_congr' fun setting => not_congr ofKey?_ofList_iff

theorem applyEntry_gives {value : List Char} (h : Gives entry setting value) (settings : Settings) :
    applyEntry settings entry = .ok (settings.set setting (String.ofList value)) := by
  rw [applyEntry, ofKey?_ofList_iff.mpr h.1]
  simp only [h.2]

theorem applyEntry_offends (h : Offends entry offence) (settings : Settings) :
    applyEntry settings entry = .error offence := by
  cases h with
  | unknown h => rw [applyEntry, ofKey?_ofList_eq_none_iff.mpr h]
  | kind hname hvalue =>
    rw [applyEntry, ofKey?_ofList_iff.mpr hname]
    dsimp only
    split
    · next value heq => exact absurd heq (hvalue value)
    · rfl

theorem fits_or_offends (entry : Toml.Entry) : Fits entry ∨ ∃ offence, Offends entry offence := by
  cases hkey : Setting.ofKey? (String.ofList entry.key.name) with
  | none => exact .inr ⟨_, .unknown (ofKey?_ofList_eq_none_iff.mp hkey)⟩
  | some setting =>
    have hname := ofKey?_ofList_iff.mp hkey
    by_cases htext : ∃ value, entry.value = .text value
    · obtain ⟨value, hvalue⟩ := htext
      exact .inl ⟨setting, value, hname, hvalue⟩
    · exact .inr ⟨_, .kind hname fun value hvalue => htext ⟨value, hvalue⟩⟩

theorem Fits.not_offends (h : Fits entry) : ¬ Offends entry offence := by
  obtain ⟨setting, value, hname, hvalue⟩ := h
  rintro (hunknown | ⟨-, hkind⟩)
  · exact hunknown setting hname
  · exact hkind value hvalue

theorem fit_or_first (entries : List Toml.Entry) : (∀ entry ∈ entries, Fits entry) ∨
    ∃ before entry after offence, entries = before ++ entry :: after ∧
      (∀ e ∈ before, Fits e) ∧ Offends entry offence := by
  induction entries with
  | nil => exact .inl nofun
  | cons entry entries ih =>
    rcases fits_or_offends entry with hfits | ⟨offence, hoffends⟩
    · rcases ih with hall | ⟨before, e, after, offence, rfl, hbefore, hoffends⟩
      · exact .inl (List.forall_mem_cons.mpr ⟨hfits, hall⟩)
      · exact .inr ⟨entry :: before, e, after, offence, rfl,
          List.forall_mem_cons.mpr ⟨hfits, hbefore⟩, hoffends⟩
    · exact .inr ⟨[], entry, entries, offence, rfl, nofun, hoffends⟩

-- ---------------------------------------------------------------------------
-- All entries
-- ---------------------------------------------------------------------------

theorem key_injective {a b : Setting} (h : a.key.toList = b.key.toList) : a = b := by
  have ha := Setting.ofKey?_key a
  rw [String.toList_injective h, Setting.ofKey?_key] at ha
  exact (Option.some.inj ha).symm

theorem key_bare (setting : Setting) :
    setting.key.toList ≠ [] ∧ ∀ c ∈ setting.key.toList, Toml.isBare c := by
  rw [← List.all_eq_true]
  cases setting <;> decide

theorem ext_get {a b : Settings} (h : ∀ setting, a.get setting = b.get setting) : a = b := by
  cases a
  cases b
  simp only [Settings.mk.injEq]
  exact ⟨h .serverUrl, h .channelId, h .folder, h .branch⟩

theorem overlaid_foldlM {base : Settings} (hfits : ∀ entry ∈ entries, Fits entry)
    (hdistinct : (entries.map (·.key.name)).Nodup) :
    ∃ settings, entries.foldlM applyEntry base = .ok settings ∧ Overlaid base entries settings := by
  induction entries generalizing base with
  | nil => exact ⟨base, rfl, nofun, nofun, fun _ _ => rfl⟩
  | cons entry entries ih =>
    obtain ⟨hentry, hfits⟩ := List.forall_mem_cons.mp hfits
    obtain ⟨hnew, hdistinct⟩ := List.nodup_cons.mp hdistinct
    obtain ⟨setting, value, hgives⟩ := hentry
    obtain ⟨settings, hfold, hoverlaid⟩ :=
      @ih (base.set setting (String.ofList value)) hfits hdistinct
    refine ⟨settings, ?_, ⟨List.forall_mem_cons.mpr ⟨⟨setting, value, hgives⟩, hfits⟩, ?_, ?_⟩⟩
    · rw [List.foldlM_cons, applyEntry_gives hgives]
      exact hfold
    · refine List.forall_mem_cons.mpr ⟨fun other text hother => ?_, hoverlaid.given⟩
      obtain rfl := key_injective (hgives.1.symm.trans hother.1)
      obtain rfl := Toml.Value.text.inj (hgives.2.symm.trans hother.2)
      have hnone : ∀ e ∈ entries, e.key.name ≠ setting.key.toList := by
        intro e he heq
        have hmem : e.key.name ∈ entries.map (·.key.name) := List.mem_map_of_mem he
        rw [heq, ← hgives.1] at hmem
        exact hnew hmem
      rw [hoverlaid.kept setting hnone, get_set, if_pos rfl]
    · intro other hother
      obtain ⟨hne, hother⟩ := List.forall_mem_cons.mp hother
      rw [hoverlaid.kept other hother, get_set, if_neg]
      rintro rfl
      exact hne hgives.1

theorem Overlaid.unique {base a b : Settings} (ha : Overlaid base entries a)
    (hb : Overlaid base entries b) : a = b := by
  refine ext_get fun setting => ?_
  by_cases hname : ∃ entry ∈ entries, entry.key.name = setting.key.toList
  · obtain ⟨entry, hentry, hname⟩ := hname
    obtain ⟨other, value, hgives⟩ := ha.fits entry hentry
    obtain rfl := key_injective (hname.symm.trans hgives.1)
    rw [ha.given entry hentry _ _ hgives, hb.given entry hentry _ _ hgives]
  · have hnone : ∀ entry ∈ entries, entry.key.name ≠ setting.key.toList := fun e he heq =>
      hname ⟨e, he, heq⟩
    rw [ha.kept setting hnone, hb.kept setting hnone]

theorem foldlM_offending {base : Settings} (hbefore : ∀ e ∈ before, Fits e)
    (hoffends : Offends entry offence) :
    (before ++ entry :: after).foldlM applyEntry base = .error offence := by
  induction before generalizing base with
  | nil =>
    rw [List.nil_append, List.foldlM_cons, applyEntry_offends hoffends]
    rfl
  | cons e before ih =>
    obtain ⟨⟨setting, value, hgives⟩, hbefore⟩ := List.forall_mem_cons.mp hbefore
    rw [List.cons_append, List.foldlM_cons, applyEntry_gives hgives]
    exact ih hbefore

-- ---------------------------------------------------------------------------
-- The whole file
-- ---------------------------------------------------------------------------

/-- The entries of a text that is a document decide what is read of it. -/
theorem parse_of_document (h : Toml.IsDocument entries text) :
    parse text = (ofEntries entries).mapError .offending := by
  rw [parse, Toml.parse?_eq_some_iff.mpr h]

theorem parse_malformed (h : ∀ entries, ¬ Toml.IsDocument entries text) :
    parse text = .error .malformed := by
  have hnone : Toml.parse? text = none :=
    Option.eq_none_iff_forall_ne_some.mpr fun entries heq =>
      h entries (Toml.parse?_eq_some_iff.mp heq)
  rw [parse, hnone]

theorem parse_overlaid (h : Toml.IsDocument entries text) (hfits : ∀ entry ∈ entries, Fits entry) :
    ∃ settings, parse text = .ok settings ∧ Overlaid {} entries settings := by
  obtain ⟨settings, hfold, hoverlaid⟩ := @overlaid_foldlM entries {} hfits h.ordered.1
  refine ⟨settings, ?_, hoverlaid⟩
  rw [parse_of_document h, ofEntries, hfold]
  rfl

theorem parse_offending (h : Toml.IsDocument (before ++ entry :: after) text)
    (hbefore : ∀ e ∈ before, Fits e) (hoffends : Offends entry offence) :
    parse text = .error (.offending offence) := by
  rw [parse_of_document h, ofEntries, foldlM_offending hbefore hoffends]
  rfl

theorem excerpt_ends (heading : String) (before part after : List Char) (message : String) :
    ∃ front, Text.excerpt heading before part after message = front ++ message ++ "\n" := by
  unfold Text.excerpt
  dsimp only
  rw [String.ofList_append, String.ofList_append, String.ofList_toList]
  exact ⟨_, rfl⟩

/-- What becomes of a file whose text is a document with those entries. -/
structure Judged (path : Bytes) (text : List Char) (entries : List Toml.Entry)
    (result : Except SettingsFault Settings) : Prop where
  distinct : (entries.map (·.key.name)).Nodup
  inOrder : entries.Pairwise (fun a b => b.key.span.opened < a.key.span.opened)
  complete : ∀ statements, Toml.Grammar.States statements (Toml.Grammar.body text) →
    ∀ name, name ∈ entries.map (·.key.name) ↔ name ∈ Toml.namedFirst true statements
  taken : (∃ settings, result = .ok settings) ↔ ∀ entry ∈ entries, Fits entry
  gives : ∀ settings, result = .ok settings ↔ Overlaid {} entries settings
  refused : ∀ fault, result = .error fault ↔ ∃ before entry after offence,
    entries = before ++ entry :: after ∧ (∀ e ∈ before, Fits e) ∧ Offends entry offence ∧
      fault = .offending path text offence
  named : ∀ offence, result = .error (.offending path text offence) →
    ∃ front, SettingsFault.cause? (.offending path text offence) =
      some (front ++ offence.problem.message ++ "\n")

def refusalOf (path : Bytes) (text : List Char) : Refusal → SettingsFault
  | .malformed => .malformed path
  | .offending offence => .offending path text offence

theorem loadFile_eq {Program : Type} {tree : Node Program} {current : FilePlace} {path : Bytes}
    {text : String} (hread : tree.read current path = .ok (Utf8.ofString text)) :
    loadFile tree current path = (parse text.toList).mapError (refusalOf path text.toList) := by
  have hdecode : Utf8.decode? (Utf8.ofString text) = some text := Utf8.decode?_eq_some_iff.mpr rfl
  rw [loadFile, hread]
  simp only [hdecode]
  rcases parse text.toList with (_ | _) | _ <;> rfl

theorem judged_overlaid {path : Bytes} (h : Toml.IsDocument entries text)
    (hoverlaid : Overlaid {} entries settings) : Judged path text entries (.ok settings) where
  distinct := h.ordered.1
  inOrder := h.ordered.2
  complete _ := h.names
  taken := ⟨fun _ => hoverlaid.fits, fun _ => ⟨settings, rfl⟩⟩
  gives other := ⟨fun heq => Except.ok.inj heq ▸ hoverlaid,
    fun hother => congrArg Except.ok (hoverlaid.unique hother)⟩
  refused fault := by
    refine ⟨nofun, ?_⟩
    rintro ⟨before, entry, after, offence, rfl, -, hoffends, -⟩
    exact absurd hoffends (hoverlaid.fits entry (by simp)).not_offends
  named := nofun

theorem judged_offending {path : Bytes} (h : Toml.IsDocument (before ++ entry :: after) text)
    (hbefore : ∀ e ∈ before, Fits e) (hoffends : Offends entry offence) :
    Judged path text (before ++ entry :: after) (.error (.offending path text offence)) where
  distinct := h.ordered.1
  inOrder := h.ordered.2
  complete _ := h.names
  taken := by
    refine ⟨nofun, fun hfits => ?_⟩
    exact absurd hoffends (hfits entry (by simp)).not_offends
  gives other := by
    refine ⟨nofun, fun hoverlaid => ?_⟩
    exact absurd hoffends (hoverlaid.fits entry (by simp)).not_offends
  refused fault := by
    constructor
    · rintro ⟨⟩
      exact ⟨before, entry, after, offence, rfl, hbefore, hoffends, rfl⟩
    · rintro ⟨before', entry', after', offence', heq, hbefore', hoffends', rfl⟩
      have hparse := parse_offending h hbefore hoffends
      rw [heq] at h
      rw [parse_offending h hbefore' hoffends'] at hparse
      cases hparse
      rfl
  named other heq := by
    cases heq
    obtain ⟨front, hfront⟩ := excerpt_ends _ _ _ _ offence.problem.message
    exact ⟨front, congrArg some hfront⟩

theorem judged_of_document {path : Bytes} (h : Toml.IsDocument entries text) :
    Judged path text entries ((parse text).mapError (refusalOf path text)) := by
  rcases fit_or_first entries with hfits | ⟨before, entry, after, offence, rfl, hbefore, hoffends⟩
  · obtain ⟨settings, hparse, hoverlaid⟩ := parse_overlaid h hfits
    rw [hparse]
    exact judged_overlaid h hoverlaid
  · rw [parse_offending h hbefore hoffends]
    exact judged_offending h hbefore hoffends

/-- Loading a file ends as its text has it, and in no other way. -/
theorem loadFile_judged {Program : Type} {tree : Node Program} {current : FilePlace} {path : Bytes}
    {text : String} (hread : tree.read current path = .ok (Utf8.ofString text)) :
    (loadFile tree current path = .error (.malformed path) ↔
      ∀ entries, ¬ Toml.IsDocument entries text.toList) ∧
    ∀ entries, Toml.IsDocument entries text.toList →
      Judged path text.toList entries (loadFile tree current path) := by
  rw [loadFile_eq hread]
  refine ⟨⟨fun hmalformed entries h => ?_, fun h => ?_⟩, fun entries h => judged_of_document h⟩
  · obtain ⟨_, _, _, _, _, _, _, hfault⟩ := ((judged_of_document h).refused _).mp hmalformed
    cases hfault
  · rw [parse_malformed h]
    rfl

def fileTree (text : String) : Node Unit :=
  .directory [(Utf8.ofString "c.toml", .file (Utf8.ofString text) none)]

def filePath : Bytes := Utf8.ofString "/c.toml"

theorem read_fileTree (text : String) :
    (fileTree text).read [] filePath = .ok (Utf8.ofString text) := by
  have hcomponents : FilePath.components filePath = [Utf8.ofString "c.toml"] := by decide +kernel
  have hleads : Node.Leads (fileTree text) [Utf8.ofString "c.toml"]
      (.file (Utf8.ofString text) none) :=
    .enter (by decide +kernel) (by decide +kernel) (by decide +kernel)
      (by simp [Node.child?]) (by rintro _ ⟨⟩) .here
  rw [Node.read, Node.resolve_leads [] (hcomponents ▸ hleads) (by decide +kernel)
    (by decide +kernel) (by decide +kernel) (by decide +kernel)]
  rfl

/-- The second of three entries is the first that does not fit. -/
theorem judged_by_second_entry :
    let text := "folder = 'a'\nbranch = 1\nother = 2\n"
    (fileTree text).read [] filePath = .ok (Utf8.ofString text) ∧
      loadFile (fileTree text) [] filePath =
        .error (.offending filePath text.toList ⟨.notText (.integer 1), ⟨12, 11⟩⟩) ∧
      ∃ entries, Toml.IsDocument entries text.toList ∧
        Judged filePath text.toList entries (loadFile (fileTree text) [] filePath) := by
  intro text
  have hread := read_fileTree text
  have hload : loadFile (fileTree text) [] filePath =
      .error (.offending filePath text.toList ⟨.notText (.integer 1), ⟨12, 11⟩⟩) := by
    have hparse : parse text.toList = .error (.offending ⟨.notText (.integer 1), ⟨12, 11⟩⟩) := by
      decide +kernel
    rw [loadFile_eq hread, hparse]
    rfl
  obtain ⟨hmalformed, hjudged⟩ := loadFile_judged hread
  refine ⟨hread, hload, ?_⟩
  by_contra hnone
  have hmalformed := hmalformed.mpr fun entries h => hnone ⟨entries, h, hjudged entries h⟩
  rw [hload] at hmalformed
  cases hmalformed

/-- Where loading goes other ways than the text of TOML alone: a table counts at
its own header, if it has one, and not where headers of tables in it stood
before; a byte order mark does not count; a written float has a bound; and
dotted keys may lead on below the last table of an array. -/
theorem loaded_by_own_rules :
    let reopened := "[a.x]\n[b]\n[a]"
    let marked := "\uFEFFfolder = 'a'"
    let great := "folder = 1e400"
    let below := "[[folder.b]]\n[folder]\nb.y.z = 2"
    (Toml.Grammar.States
        [.table [⟨['a'], ⟨12, 11⟩⟩] ⟨['x'], ⟨10, 9⟩⟩ ⟨13, 8⟩, .table [] ⟨['b'], ⟨6, 5⟩⟩ ⟨7, 4⟩,
          .table [] ⟨['a'], ⟨2, 1⟩⟩ ⟨3, 0⟩] reopened.toList ∧
      (∀ setting : Setting, ['a'] ≠ setting.key.toList) ∧
      loadFile (fileTree reopened) [] filePath =
        .error (.offending filePath reopened.toList ⟨.unknownKey ['b'], ⟨6, 5⟩⟩)) ∧
    ((∀ statements, ¬ Toml.Grammar.States statements marked.toList) ∧
      loadFile (fileTree marked) [] filePath = .ok { folder := "a" }) ∧
    ((∃ x, Toml.Grammar.Float x "1e400".toList []) ∧
      loadFile (fileTree great) [] filePath = .error (.malformed filePath)) ∧
    (Toml.Grammar.States
        [.tables [⟨"folder".toList, ⟨29, 23⟩⟩] ⟨['b'], ⟨22, 21⟩⟩ ⟨31, 19⟩,
          .table [] ⟨"folder".toList, ⟨17, 11⟩⟩ ⟨18, 10⟩,
          .pair [⟨['b'], ⟨9, 8⟩⟩, ⟨['y'], ⟨7, 6⟩⟩] ⟨['z'], ⟨5, 4⟩⟩ (.integer 2) ⟨1, 0⟩]
        below.toList ∧
      loadFile (fileTree below) [] filePath =
        .error (.offending filePath below.toList ⟨.notText .map, ⟨18, 0⟩⟩)) := by
  intro reopened marked great below
  simp only [loadFile_eq (read_fileTree _)]
  refine ⟨⟨?_, ?_, ?_⟩, ⟨?_, ?_⟩, ⟨?_, ?_⟩, ?_, ?_⟩
  · exact @Toml.Grammar.states_of_lines? _ (reopened.toList.length + 1) _ (by decide +kernel)
  · rintro (_ | _ | _ | _) <;> decide
  · have hparse : parse reopened.toList = .error (.offending ⟨.unknownKey ['b'], ⟨6, 5⟩⟩) := by
      decide +kernel
    rw [hparse]
    rfl
  · intro statements h
    have hread := h.read (Nat.lt_succ_self _)
    have hnone : Toml.lines? (marked.toList.length + 1) marked.toList = none := by decide +kernel
    cases hnone.symm.trans hread
  · have hparse : parse marked.toList = .ok { folder := "a" } := by decide +kernel
    rw [hparse]
    rfl
  · have hwhole : Toml.Grammar.Decimal false ['1'] "1e400".toList "e400".toList :=
      .digits .none (.one rfl) (by decide)
    have hdigits : Toml.Grammar.Digits Char.isDigit "400".toList "400".toList [] :=
      .more rfl (.more rfl (.one rfl))
    exact ⟨_, .exponent hwhole (.intro (.inl rfl) .none hdigits)⟩
  · have hparse : parse great.toList = .error .malformed := by decide +kernel
    rw [hparse]
    rfl
  · exact @Toml.Grammar.states_of_lines? _ (below.toList.length + 1) _ (by decide +kernel)
  · have hparse : parse below.toList = .error (.offending ⟨.notText .map, ⟨18, 0⟩⟩) := by
      decide +kernel
    rw [hparse]
    rfl

end ManifestNotice.Settings
