import ManifestNotice.Proofs.FileTree.Alike
import ManifestNotice.Proofs.Settings.Aside

/-!
# Where settings come from

Loading asks three things of a file tree: whether the current directory is there,
which of the usual files are, and what one file holds. Two trees with the same
answers, but for the text of one setting, give the same settings but for that
one, or the same fault (`load_alike`). So do trees that differ in nothing but
their programs and that text (`sameSource_of_trees`).
-/

namespace ManifestNotice.Settings

variable {Program : Type} {aside : Setting} {tree other : Node Program} {current : FilePlace}
  {chosen : Option Bytes} {path : Bytes}

-- ---------------------------------------------------------------------------
-- The settings file
-- ---------------------------------------------------------------------------

def source? (tree : Node Program) (current : FilePlace) (chosen : Option Bytes) : Option Bytes :=
  chosen.or (if (tree.at? current).isSome then search tree current.reverse else none)

/-- Contents that are the same, or texts that differ in the setting. -/
def SameContents (aside : Setting) (contents second : Bytes) : Prop :=
  contents = second ∨ ∃ text other : String, contents = Utf8.ofString text ∧
    second = Utf8.ofString other ∧ Reworded aside text.toList other.toList

/-- In both trees the settings come from the same path, and what is read there
is the same but for one setting. -/
structure SameSource (aside : Setting) (tree other : Node Program) (current : FilePlace)
    (chosen : Option Bytes) : Prop where
  source : source? other current chosen = source? tree current chosen
  contents : ∀ path ∈ source? tree current chosen,
    Agree (SameContents aside) (tree.read current path) (other.read current path)

/-- The same settings but for one, or the same fault. A report is about the text
of its own tree. -/
inductive LoadedAlike (aside : Setting) :
    Except SettingsFault Settings → Except SettingsFault Settings → Prop
  | fault (fault : SettingsFault) : LoadedAlike aside (.error fault) (.error fault)
  | offending {path : Bytes} {text other : List Char} {offence second : Offence} :
      second.problem = offence.problem →
      Text.SameExcerpt text other (offence.report text) (second.report other) →
      LoadedAlike aside (.error (.offending path text offence))
        (.error (.offending path other second))
  | taken {settings second : Settings} : SameBut aside settings second →
      LoadedAlike aside (.ok settings) (.ok second)

theorem LoadedAlike.refl (aside : Setting) (result : Except SettingsFault Settings) :
    LoadedAlike aside result result := by
  cases result with
  | error fault => exact .fault fault
  | ok => exact .taken fun _ _ => rfl

theorem loadFile_alike
    (h : Agree (SameContents aside) (tree.read current path) (other.read current path)) :
    LoadedAlike aside (loadFile tree current path) (loadFile other current path) := by
  generalize hfirst : tree.read current path = first at h
  generalize hsecond : other.read current path = second at h
  cases h with
  | error cause =>
    rw [loadFile, loadFile, hfirst, hsecond]
    exact .fault _
  | ok h =>
    rcases h with rfl | ⟨text, words, rfl, rfl, hreworded⟩
    · rw [loadFile, loadFile, hfirst, hsecond]
      exact .refl aside _
    · rw [loadFile_eq hfirst, loadFile_eq hsecond]
      have hparse := parse_reworded hreworded
      generalize parse text.toList = result at hparse
      generalize parse words.toList = given at hparse
      cases hparse with
      | malformed => exact .fault _
      | offending hproblem hreport => exact .offending hproblem hreport
      | taken hsame => exact .taken hsame

theorem load_eq (tree : Node Program) (current : FilePlace) (chosen : Option Bytes) :
    load tree current chosen = match source? tree current chosen with
      | some path => loadFile tree current path
      | none => .ok {} := rfl

theorem load_alike (h : SameSource aside tree other current chosen) :
    LoadedAlike aside (load tree current chosen) (load other current chosen) := by
  rw [load_eq, load_eq, h.source]
  cases hsource : source? tree current chosen with
  | none => exact .refl aside _
  | some path => exact loadFile_alike (h.contents path hsource)

-- ---------------------------------------------------------------------------
-- Trees that differ in their programs
-- ---------------------------------------------------------------------------

theorem search_alike {same : Bytes → Bytes → Prop} (h : Node.TreesAlike same tree other)
    (above : List FileName) : search other above = search tree above := by
  have hthere (path : Bytes) : isThere other path = isThere tree path := by
    have hresolve := Node.resolve_alike h [] path
    rw [isThere, isThere]
    generalize tree.resolve [] path = first at hresolve
    generalize other.resolve [] path = second at hresolve
    cases hresolve <;> rfl
  induction above with
  | nil => rw [search, search, hthere]
  | cons name above ih => rw [search, search, hthere, ih]

/-- Trees that differ in nothing but their programs, and in the setting. -/
theorem sameSource_of_trees (h : Node.TreesAlike (SameContents aside) tree other)
    (current : FilePlace) (chosen : Option Bytes) : SameSource aside tree other current chosen where
  source := by
    rw [source?, source?, search_alike h, (h current).isSome_eq]
  contents path _ := Node.read_alike h current path

end ManifestNotice.Settings
