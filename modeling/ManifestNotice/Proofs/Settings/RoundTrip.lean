import Mathlib.Data.List.Forall2
import ManifestNotice.Proofs.Settings.Overlay
import ManifestNotice.Proofs.Toml.Writing

/-!
# Written settings

A file of assignments, each setting at most once and in any order, among blank
lines and comments, is loaded as it was written (`load_written`).
-/

namespace ManifestNotice.Settings

-- ---------------------------------------------------------------------------
-- What is written
-- ---------------------------------------------------------------------------

/-- A text for a setting, with a way to write it between double quotes. -/
structure Assignment where
  setting : Setting
  value : List Char
  spelling : List Char
  spells : Toml.Grammar.Basic value spelling []

/-- The text with just the escapes that it needs. -/
def Assignment.escaped (setting : Setting) (value : String) : Assignment where
  setting
  value := value.toList
  spelling := value.toList.flatMap Toml.escape ++ ['"']
  spells := Toml.Grammar.basic_escaped value.toList []

inductive FileLine where
  | blank (space : { space : List Char // ∀ c ∈ space, Toml.isSpace c })
  | comment (space : { space : List Char // ∀ c ∈ space, Toml.isSpace c })
      (words : { words : List Char // ∀ c ∈ words, Toml.isPlain c })
  | assignment (assignment : Assignment)

def FileLine.text : FileLine → List Char
  | .blank space => space
  | .comment space words => space ++ '#' :: words
  | .assignment a => a.setting.key.toList ++ ' ' :: '=' :: ' ' :: '"' :: a.spelling

def FileLine.assignment? : FileLine → Option Assignment
  | .assignment a => some a
  | _ => none

inductive LineBreak where
  | feed
  | returnFeed

def LineBreak.text : LineBreak → List Char
  | .feed => ['\n']
  | .returnFeed => ['\r', '\n']

/-- Lines with a break behind each, and one more line without. -/
structure FileText where
  lines : List (FileLine × LineBreak)
  last : FileLine

def FileText.text (file : FileText) : List Char :=
  file.lines.flatMap (fun (line, lineBreak) => line.text ++ lineBreak.text) ++ file.last.text

def FileText.assignments (file : FileText) : List Assignment :=
  (file.lines.map (·.1) ++ [file.last]).filterMap (·.assignment?)

-- ---------------------------------------------------------------------------
-- Line by line
-- ---------------------------------------------------------------------------

open Toml.Grammar (States Stated Spaces Newline Trail)
open Json.Grammar (Skips Leaves)

def Assigns (a : Assignment) (statement : Toml.Statement) : Prop :=
  ∃ name span, statement = .pair [] ⟨a.setting.key.toList, name⟩ (.text a.value) span

theorem stated_assignment (a : Assignment) (rest : List Char) :
    ∃ statement, Assigns a statement ∧
      Stated statement ((FileLine.assignment a).text ++ rest) rest := by
  obtain ⟨setting, value, spelling, spells⟩ := a
  obtain ⟨hname, hbare⟩ := key_bare setting
  have hvalue : Toml.Grammar.Nested Toml.depthLimit (.text value)
      ('"' :: (spelling ++ rest)) rest :=
    .inl (.text (.basic (spells.append rest)))
  have hkey : Toml.Grammar.SimpleKey setting.key.toList
      (setting.key.toList ++ ' ' :: '=' :: ' ' :: '"' :: (spelling ++ rest))
      (' ' :: '=' :: ' ' :: '"' :: (spelling ++ rest)) :=
    .bare hname hbare (.of_cons rfl _)
  have hspace : Spaces (' ' :: '=' :: ' ' :: '"' :: (spelling ++ rest))
      ('=' :: ' ' :: '"' :: (spelling ++ rest)) := Json.Grammar.skips_cons rfl (Skips.refl _ _)
  have hpath := Toml.Grammar.Path.last (Skips.refl _ _) hkey hspace
  have hpair := Toml.Grammar.Pair.intro hpath (show 1 ≤ Toml.depthLimit by decide)
    (Json.Grammar.skips_cons rfl (Skips.refl _ _)) hvalue
  have hstated : Stated (.pair [] ⟨setting.key.toList, _⟩ (.text value) _) _ rest := .pair hpair
  simp only [FileLine.text, List.append_assoc, List.cons_append]
  exact ⟨_, ⟨_, _, rfl⟩, hstated⟩

theorem trail_line {line : FileLine} (h : line.assignment? = none) (rest : List Char) :
    Trail (line.text ++ rest) rest := by
  cases line with
  | blank space => exact .space ⟨space, rfl, space.2⟩
  | comment space words =>
    rw [FileLine.text, List.append_assoc]
    exact .comment ⟨space, rfl, space.2⟩ (.intro ⟨words, rfl, words.2⟩)
  | assignment => cases h

theorem newline_lineBreak (lineBreak : LineBreak) (rest : List Char) :
    Newline (lineBreak.text ++ rest) rest := by
  cases lineBreak
  · exact .feed
  · exact .both

theorem states_line (line : FileLine) (lineBreak : LineBreak) {statements : List Toml.Statement}
    {rest : List Char} (h : States statements rest) :
    ∃ first, List.Forall₂ Assigns line.assignment?.toList first ∧
      States (first ++ statements) (line.text ++ (lineBreak.text ++ rest)) := by
  have hbreak := newline_lineBreak lineBreak rest
  cases hline : line.assignment? with
  | none => exact ⟨[], .nil, .blankLine (trail_line hline _) hbreak h⟩
  | some a =>
    obtain ⟨⟩ | ⟨⟩ | a := line
    · cases hline
    · cases hline
    · cases hline
      obtain ⟨statement, hassigns, hstated⟩ := stated_assignment a (lineBreak.text ++ rest)
      exact ⟨[statement], .cons hassigns .nil,
        .line (Skips.refl _ _) hstated (.space (Skips.refl _ _)) hbreak h⟩

theorem states_last (line : FileLine) :
    ∃ statements, List.Forall₂ Assigns line.assignment?.toList statements ∧
      States statements line.text := by
  cases hline : line.assignment? with
  | none =>
    have htrail := trail_line hline []
    rw [List.append_nil] at htrail
    exact ⟨[], .nil, .blank htrail⟩
  | some a =>
    obtain ⟨⟩ | ⟨⟩ | a := line
    · cases hline
    · cases hline
    · cases hline
      obtain ⟨statement, hassigns, hstated⟩ := stated_assignment a []
      rw [List.append_nil] at hstated
      exact ⟨[statement], .cons hassigns .nil,
        .last (Skips.refl _ _) hstated (.space (Skips.refl _ _))⟩

theorem states_text (lines : List (FileLine × LineBreak)) (last : FileLine) :
    ∃ statements, List.Forall₂ Assigns (FileText.assignments ⟨lines, last⟩) statements ∧
      States statements (FileText.text ⟨lines, last⟩) := by
  induction lines with
  | nil =>
    obtain ⟨statements, hassigns, hstates⟩ := states_last last
    have hlast : FileText.assignments ⟨[], last⟩ = last.assignment?.toList := by
      cases hline : last.assignment? <;> simp [FileText.assignments, hline]
    exact ⟨statements, hlast ▸ hassigns, hstates⟩
  | cons line lines ih =>
    obtain ⟨statements, hassigns, hstates⟩ := ih
    obtain ⟨first, hfirst, hall⟩ := states_line line.1 line.2 hstates
    refine ⟨first ++ statements, ?_, ?_⟩
    · have happend : FileText.assignments ⟨line :: lines, last⟩ =
          line.1.assignment?.toList ++ FileText.assignments ⟨lines, last⟩ := by
        cases hline : line.1.assignment? <;> simp [FileText.assignments, hline]
      rw [happend]
      exact List.rel_append hfirst hassigns
    · have happend : FileText.text ⟨line :: lines, last⟩ =
          line.1.text ++ (line.2.text ++ FileText.text ⟨lines, last⟩) := by
        simp [FileText.text]
      rwa [happend]

-- ---------------------------------------------------------------------------
-- The document
-- ---------------------------------------------------------------------------

theorem builds_assignments {assignments : List Assignment} {statements : List Toml.Statement}
    (h : List.Forall₂ Assigns assignments statements) {doc : Toml.Document}
    (hcurrent : doc.current = [])
    (hfree : ∀ a ∈ assignments, doc.find? [(a.setting.key.toList, 0)] = none)
    (hdistinct : (assignments.map (·.setting)).Nodup) :
    ∃ doc' entries, Toml.Document.Builds doc statements doc' ∧
      doc'.entries = doc.entries ++ entries ∧
      List.Forall₂ (fun a entry => Gives entry a.setting a.value) assignments entries := by
  induction h generalizing doc with
  | nil => exact ⟨doc, [], .nil, (List.append_nil _).symm, .nil⟩
  | @cons a statement assignments statements hassigns h ih =>
    obtain ⟨name, span, rfl⟩ := hassigns
    obtain ⟨ha, hfree⟩ := List.forall_mem_cons.mp hfree
    obtain ⟨hnew, hdistinct⟩ := List.nodup_cons.mp hdistinct
    have hplace : doc.find? (doc.current ++ [(a.setting.key.toList, 0)]) = none := by
      rw [hcurrent]
      exact ha
    have htakes := @Toml.Document.Takes.pair doc ⟨a.setting.key.toList, name⟩ (.text a.value) span
      hplace
    rw [hcurrent] at htakes
    have hnext : ∀ b ∈ assignments,
        (doc.pair [] ⟨a.setting.key.toList, name⟩ (.text a.value) span).find?
          [(b.setting.key.toList, 0)] = none := by
      intro b hb
      have hne : a.setting.key.toList ≠ b.setting.key.toList := by
        intro heq
        have hmem : b.setting ∈ assignments.map (·.setting) := List.mem_map_of_mem hb
        rw [← key_injective heq] at hmem
        exact hnew hmem
      rw [Toml.Document.pair, Toml.Document.find?_extend, Toml.Document.find?_enter,
        Toml.Document.find?_define, if_neg (by simpa using hne), hfree b hb]
    obtain ⟨doc', entries, hbuilds, hentries, hgives⟩ :=
      ih (by rw [Toml.Document.current_pair, hcurrent]) hnext hdistinct
    refine ⟨doc', ⟨⟨a.setting.key.toList, name⟩, .text a.value, span⟩ :: entries,
      .cons htakes hbuilds, ?_, .cons ⟨rfl, rfl⟩ hgives⟩
    rw [hentries, Toml.Document.pair, hcurrent]
    simp [Toml.Document.extend, Toml.Document.enter, Toml.Document.define]

theorem document_text (file : FileText) (hdistinct : (file.assignments.map (·.setting)).Nodup) :
    ∃ entries, Toml.IsDocument entries file.text ∧
      List.Forall₂ (fun a entry => Gives entry a.setting a.value) file.assignments entries := by
  obtain ⟨statements, hassigns, hstates⟩ := states_text file.lines file.last
  obtain ⟨doc, entries, hbuilds, hentries, hgives⟩ :=
    @builds_assignments _ _ hassigns {} rfl (fun _ _ => rfl) hdistinct
  rw [← Toml.Grammar.body_eq hstates.head_ne] at hstates
  exact ⟨entries, ⟨statements, doc, hstates, hbuilds, hentries⟩, hgives⟩

theorem exists_related {α β : Type} {r : α → β → Prop} {xs : List α} {ys : List β}
    (h : List.Forall₂ r xs ys) {x : α} (hx : x ∈ xs) : ∃ y ∈ ys, r x y := by
  induction h with
  | nil => cases hx
  | @cons a b _ _ hr _ ih =>
    rcases List.mem_cons.mp hx with rfl | hx
    · exact ⟨b, List.mem_cons_self, hr⟩
    · obtain ⟨y, hy, hr⟩ := ih hx
      exact ⟨y, List.mem_cons_of_mem _ hy, hr⟩

-- ---------------------------------------------------------------------------
-- Loading what was written
-- ---------------------------------------------------------------------------

/-- Each setting has the text that was written for it, or is as it is built in. -/
theorem load_written {Program : Type} {tree : Node Program} {current : FilePlace} {path : Bytes}
    (file : FileText) (hdistinct : (file.assignments.map (·.setting)).Nodup)
    (hread : tree.read current path = .ok (Utf8.ofString (String.ofList file.text))) :
    (∃ settings, load tree current (some path) = .ok settings ∧
      (∀ a ∈ file.assignments, settings.get a.setting = String.ofList a.value) ∧
      ∀ setting ∉ file.assignments.map (·.setting),
        settings.get setting = ({} : Settings).get setting) ∧
    (file.assignments = [] → load tree current (some path) = .ok {}) := by
  obtain ⟨entries, hdocument, hgives⟩ := document_text file hdistinct
  have hassigned : ∀ entry ∈ entries, ∃ a ∈ file.assignments, Gives entry a.setting a.value :=
    fun _ hentry => exists_related hgives.flip hentry
  have hfits : ∀ entry ∈ entries, Fits entry := fun entry hentry =>
    let ⟨a, _, hgiven⟩ := hassigned entry hentry
    ⟨a.setting, a.value, hgiven⟩
  obtain ⟨settings, hparse, hoverlaid⟩ := parse_overlaid hdocument hfits
  have hload : load tree current (some path) = .ok settings := by
    show loadFile tree current path = _
    rw [loadFile_eq hread, String.toList_ofList, hparse]
    rfl
  have hkept : ∀ setting ∉ file.assignments.map (·.setting),
      settings.get setting = ({} : Settings).get setting := by
    intro setting hsetting
    refine hoverlaid.kept setting fun entry hentry hname => hsetting ?_
    obtain ⟨a, ha, hgiven⟩ := hassigned entry hentry
    rw [key_injective (hname.symm.trans hgiven.1)]
    exact List.mem_map_of_mem ha
  refine ⟨⟨settings, hload, fun a ha => ?_, hkept⟩, fun hnone => ?_⟩
  · obtain ⟨entry, hentry, hgiven⟩ := exists_related hgives ha
    exact hoverlaid.given entry hentry _ _ hgiven
  · rw [hload, ext_get fun setting => hkept setting (by simp [hnone])]

/-- A quote, a backslash and a line break survive, and so does an empty text. -/
theorem load_written_with_quote :
    let first := Assignment.escaped .branch "a\"\\\nb"
    let second := Assignment.escaped .folder ""
    let file : FileText :=
      ⟨[(.comment ⟨[], nofun⟩ ⟨"own".toList, List.all_eq_true.mp (by decide)⟩, .feed),
        (.assignment first, .returnFeed), (.blank ⟨[], nofun⟩, .feed)], .assignment second⟩
    let tree := fileTree (String.ofList file.text)
    (file.assignments.map (·.setting)).Nodup ∧
      tree.read [] filePath = .ok (Utf8.ofString (String.ofList file.text)) ∧
      file.text = "#own\nbranch = \"a\\\"\\\\\\u000Ab\"\r\n\nfolder = \"\"".toList ∧
      load tree [] (some filePath) = .ok { branch := "a\"\\\nb", folder := "" } := by
  intro first second file tree
  have hassignments : file.assignments = [first, second] := rfl
  have hdistinct : (file.assignments.map (·.setting)).Nodup := by decide
  have hread : tree.read [] filePath = .ok (Utf8.ofString (String.ofList file.text)) :=
    read_fileTree _
  refine ⟨hdistinct, hread, by decide +kernel, ?_⟩
  obtain ⟨⟨settings, hload, hgiven, hkept⟩, -⟩ := load_written file hdistinct hread
  rw [hassignments] at hgiven hkept
  rw [hload]
  refine congrArg _ (ext_get fun setting => ?_)
  cases setting with
  | serverUrl => exact hkept .serverUrl (by simp [first, second, Assignment.escaped])
  | channelId => exact hkept .channelId (by simp [first, second, Assignment.escaped])
  | folder => exact hgiven second (by simp)
  | branch => exact (hgiven first (by simp)).trans (String.ofList_toList)

end ManifestNotice.Settings
