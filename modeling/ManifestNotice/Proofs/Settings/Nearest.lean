import ManifestNotice.Proofs.FileTree.Path
import ManifestNotice.Proofs.Steps
import ManifestNotice.Settings.Load

/-!
# The nearest settings file

Without a chosen file the settings come from the deepest directory, of the
current one and all above it, in which the usual file exists, and from no other
(`load_nearest`). That a file exists is what the system says of its path, which
goes through links; `holds_iff_stands` says what that comes to for an entry.
-/

namespace ManifestNotice.Settings

open FilePath

variable {Program : Type} {tree : Node Program} {current folder deeper : FilePlace}

-- ---------------------------------------------------------------------------
-- The search
-- ---------------------------------------------------------------------------

/-- The usual file of a directory exists: its path leads to something, be that a
file or not. -/
def Holds (tree : Node Program) (folder : FilePlace) : Prop :=
  ∃ place node, tree.resolve [] (usualPath folder) = .ok (place, node)

/-- The deepest directory that holds the usual file, of the current one and those
above it. -/
structure Nearest (tree : Node Program) (current folder : FilePlace) : Prop where
  above : folder <+: current
  holds : Holds tree folder
  deepest : ∀ deeper, deeper <+: current → Holds tree deeper → deeper <+: folder

theorem isThere_iff : isThere tree (usualPath folder) ↔ Holds tree folder := by
  unfold isThere Holds
  cases tree.resolve [] (usualPath folder) with
  | error cause => exact ⟨nofun, fun ⟨_, _, h⟩ => nomatch h⟩
  | ok found => exact ⟨fun _ => ⟨_, _, rfl⟩, fun _ => rfl⟩

theorem Nearest.unique (h : Nearest tree current folder) (h' : Nearest tree current deeper) :
    folder = deeper :=
  (h'.deepest folder h.above h.holds).eq_of_length
    (Nat.le_antisymm (h'.deepest folder h.above h.holds).length_le
      (h.deepest deeper h'.above h'.holds).length_le)

theorem nearest_self (h : Holds tree current) : Nearest tree current current where
  above := List.prefix_refl current
  holds := h
  deepest _ habove _ := habove

theorem Nearest.below {name : FileName} (h : Nearest tree current folder)
    (hnot : ¬ Holds tree (current ++ [name])) : Nearest tree (current ++ [name]) folder where
  above := h.above.trans (List.prefix_append current [name])
  holds := h.holds
  deepest deeper hdeeper hholds := by
    rcases List.prefix_concat_iff.mp hdeeper with rfl | hdeeper
    · exact absurd hholds hnot
    · exact h.deepest deeper hdeeper hholds

/-- Either no directory on the way up holds the file, or the search ends at the
nearest that does. -/
theorem search_cases (tree : Node Program) (names : List FileName) :
    (search tree names = none ∧ ∀ folder, folder <+: names.reverse → ¬ Holds tree folder) ∨
      ∃ folder, Nearest tree names.reverse folder ∧ search tree names = some (usualPath folder) := by
  induction names with
  | nil =>
    rw [search, List.reverse_nil]
    by_cases hthere : isThere tree (usualPath [])
    · rw [if_pos hthere]
      exact .inr ⟨[], nearest_self (isThere_iff.mp hthere), rfl⟩
    · rw [if_neg hthere]
      refine .inl ⟨rfl, fun folder hfolder => ?_⟩
      rw [List.prefix_nil.mp hfolder]
      exact mt isThere_iff.mpr hthere
  | cons name above ih =>
    rw [search, List.reverse_cons]
    by_cases hthere : isThere tree (usualPath (above.reverse ++ [name]))
    · rw [if_pos hthere]
      exact .inr ⟨_, nearest_self (isThere_iff.mp hthere), rfl⟩
    · rw [if_neg hthere]
      have hnot := mt isThere_iff.mpr hthere
      rcases ih with ⟨hsearch, hnone⟩ | ⟨folder, hnearest, hsearch⟩
      · refine .inl ⟨hsearch, fun folder hfolder => ?_⟩
        rcases List.prefix_concat_iff.mp hfolder with rfl | hfolder
        · exact hnot
        · exact hnone folder hfolder
      · exact .inr ⟨folder, hnearest.below hnot, hsearch⟩

theorem Nearest.search (h : Nearest tree current folder) :
    search tree current.reverse = some (usualPath folder) := by
  rcases search_cases tree current.reverse with ⟨-, hnone⟩ | ⟨found, hfound, hsearch⟩
  · rw [List.reverse_reverse] at hnone
    exact absurd h.holds (hnone folder h.above)
  · rw [List.reverse_reverse] at hfound
    rw [hsearch, hfound.unique h]

-- ---------------------------------------------------------------------------
-- Entries
-- ---------------------------------------------------------------------------

/-- An entry of a directory exists after its links: it is no link, or what it
names leads to something from there. -/
inductive Stands (tree : Node Program) (folder : FilePlace) : Option (Node Program) → Prop
  | file {contents program} : Stands tree folder (some (.file contents program))
  | directory {entries} : Stands tree folder (some (.directory entries))
  | link {target place node} : target ≠ [] →
      tree.walk false (linkLimit - 1) (wantsDirectory target)
        (if isAbsolute target then [] else folder) (components target) = .ok (.node place node) →
      Stands tree folder (some (.link target))

theorem fileName_proper : fileName.Proper := by decide +kernel

section
variable {entries : List (FileName × Node Program)}

theorem arrive_usual (hat : tree.at? folder = some (.directory entries))
    (hproper : ∀ name ∈ folder, name.Proper) (hlength : (usualPath folder).length ≤ pathLimit) :
    tree.arrive false [] (usualPath folder) =
      tree.walk false linkLimit false folder [fileName] := by
  have hpath : usualPath folder = ofPlace (folder ++ [fileName]) := join_ofPlace hproper fileName
  rw [hpath] at hlength ⊢
  exact Node.arrive_entry [] hat hproper fileName_proper hlength

theorem holds_iff_stands (hat : tree.at? folder = some (.directory entries))
    (hproper : ∀ name ∈ folder, name.Proper) (hlength : (usualPath folder).length ≤ pathLimit) :
    Holds tree folder ↔ Stands tree folder ((Node.directory entries).child? fileName) := by
  have hleads : Holds tree folder ↔
      ∃ place node, tree.walk false linkLimit false folder [fileName] = .ok (.node place node) := by
    rw [Holds, Node.resolve, arrive_usual hat hproper hlength]
    rcases tree.walk false linkLimit false folder [fileName] with _ | _ | _
    · constructor <;> rintro ⟨_, _, ⟨⟩⟩
    · exact ⟨fun _ => ⟨_, _, rfl⟩, fun _ => ⟨_, _, rfl⟩⟩
    · constructor <;> rintro ⟨_, _, ⟨⟩⟩
  rw [hleads, Node.walk_entry hat fileName_proper]
  cases (Node.directory entries).child? fileName with
  | none =>
    constructor
    · rintro ⟨_, _, ⟨⟩⟩
    · rintro ⟨⟩
  | some child =>
    cases child with
    | file => exact ⟨fun _ => .file, fun _ => ⟨_, _, rfl⟩⟩
    | directory => exact ⟨fun _ => .directory, fun _ => ⟨_, _, rfl⟩⟩
    | link target =>
      dsimp only
      by_cases hempty : target.isEmpty
      · rw [if_pos hempty]
        constructor
        · rintro ⟨_, _, ⟨⟩⟩
        · rintro (_ | _ | ⟨hne, -⟩)
          exact absurd (List.isEmpty_iff.mp hempty) hne
      · rw [if_neg hempty]
        constructor
        · rintro ⟨place, node, hwalk⟩
          exact .link (mt List.isEmpty_iff.mpr hempty) hwalk
        · rintro (_ | _ | ⟨-, hwalk⟩)
          exact ⟨_, _, hwalk⟩

end

-- ---------------------------------------------------------------------------
-- Loading
-- ---------------------------------------------------------------------------

theorem resolve_usualPath (tree : Node Program) (current folder : FilePlace) :
    tree.resolve current (usualPath folder) = tree.resolve [] (usualPath folder) := by
  have habsolute : isAbsolute (usualPath folder) = true := by
    cases folder with
    | nil => rfl
    | cons name above =>
      show isAbsolute (join (ofPlace (name :: above)) fileName) = true
      rw [join]
      split <;> rfl
  rw [Node.resolve, Node.resolve, Node.arrive, Node.arrive, habsolute]
  rfl

theorem load_searched (h : (tree.at? current).isSome) :
    load tree current none = match search tree current.reverse with
      | some path => loadFile tree current path
      | none => .ok {} := by
  rw [load, if_pos h]
  rfl

/-- What loading without a chosen file comes to where a directory is the nearest
that holds the usual file. -/
structure LoadedFrom (tree : Node Program) (current folder : FilePlace) : Prop where
  same : load tree current none = load tree current (some (usualPath folder))
  /-- Another tree with the same to read there gives the same, whatever stands
  under the usual name further up. -/
  alone {other : Node Program} : (other.at? current).isSome → Nearest other current folder →
    other.read current (usualPath folder) = tree.read current (usualPath folder) →
      load other current none = load tree current none
  /-- A directory of the usual name is found, and cannot be read. -/
  directory {place : FilePlace} {below : List (FileName × Node Program)} :
    tree.resolve [] (usualPath folder) = .ok (place, .directory below) →
      load tree current none = .error (.unreadable (usualPath folder) .isDirectory)

theorem load_of_nearest (hthere : (tree.at? current).isSome) (h : Nearest tree current folder) :
    load tree current none = loadFile tree current (usualPath folder) := by
  rw [load_searched hthere, h.search]

theorem loadedFrom_of_nearest (hthere : (tree.at? current).isSome)
    (h : Nearest tree current folder) : LoadedFrom tree current folder where
  same := load_of_nearest hthere h
  alone hother hnearest hread := by
    rw [load_of_nearest hother hnearest, load_of_nearest hthere h, loadFile, loadFile, hread]
  directory hresolve := by
    have hread : tree.read current (usualPath folder) = .error .isDirectory := by
      rw [Node.read, resolve_usualPath, hresolve]
      rfl
    rw [load_of_nearest hthere h, loadFile, hread]

/-- Without a chosen file, one of these happens, whatever the current directory:
it is gone, no directory on the way up holds the usual file, or one is the
nearest that does. An entry that is no link exists, and a link does where it
leads to something. -/
theorem load_nearest (tree : Node Program) (current : FilePlace) :
    ((tree.at? current = none ∨ ∀ folder, folder <+: current → ¬ Holds tree folder) ∧
        load tree current none = .ok {} ∨
      (tree.at? current).isSome ∧ ∃ folder, Nearest tree current folder) ∧
    (∀ folder, (tree.at? current).isSome → Nearest tree current folder →
      LoadedFrom tree current folder) ∧
    ∀ folder entries, tree.at? folder = some (.directory entries) →
      (∀ name ∈ folder, name.Proper) → (usualPath folder).length ≤ pathLimit →
        (Holds tree folder ↔ Stands tree folder ((Node.directory entries).child? fileName)) := by
  refine ⟨?_, fun _ => loadedFrom_of_nearest, fun _ _ => holds_iff_stands⟩
  cases hat : tree.at? current with
  | none =>
    refine .inl ⟨.inl rfl, ?_⟩
    rw [load, hat]
    rfl
  | some node =>
    have hthere : (tree.at? current).isSome := by rw [hat]; rfl
    have hcases := search_cases tree current.reverse
    rw [List.reverse_reverse] at hcases
    rcases hcases with ⟨hsearch, hnone⟩ | ⟨folder, hnearest, -⟩
    · refine .inl ⟨.inr hnone, ?_⟩
      rw [load_searched hthere, hsearch]
    · exact .inr ⟨rfl, folder, hnearest⟩

/-- A dangling link is passed over, a link to a file is not, and the file at the
top is not looked at. -/
theorem nearest_above_dangling :
    let a := Utf8.ofString "a"
    let b := Utf8.ofString "b"
    let gone := Utf8.ofString "gone"
    let named := Utf8.ofString "s.toml"
    let contents := Utf8.ofString "folder = 'x'"
    let lowest : Node Unit := .directory [(fileName, .link gone)]
    let middle : Node Unit :=
      .directory [(fileName, .link named), (named, .file contents none), (b, lowest)]
    let tree : Node Unit := .directory [(fileName, .file [0xFF] none), (a, middle)]
    (tree.at? [a, b]).isSome ∧ Nearest tree [a, b] [a] ∧ LoadedFrom tree [a, b] [a] ∧
      load tree [a, b] none = .ok { folder := "x" } := by
  intro a b gone named contents lowest middle tree
  obtain ⟨-, hloaded, hstands⟩ := load_nearest tree [a, b]
  have ha : FileName.Proper a := by decide +kernel
  have hb : FileName.Proper b := by decide +kernel
  have hgone : FileName.Proper gone := by decide +kernel
  have hnamed : FileName.Proper named := by decide +kernel
  have hlowest : ¬ Holds tree [a, b] := by
    rw [hstands [a, b] _ (rfl : tree.at? [a, b] = some lowest) (by simp [ha, hb])
      (by decide +kernel)]
    rintro (_ | _ | ⟨-, hwalk⟩)
    rw [components_name hgone, wantsDirectory_name hgone, isAbsolute_name hgone, Node.walk] at hwalk
    cases hwalk
  have hat : tree.at? [a] = some middle := rfl
  have hlink : tree.walk false linkLimit false [a] [fileName] =
      .ok (.node [a, named] (.file contents none)) := by
    rw [Node.walk_link hat fileName_proper rfl hnamed, Node.walk]
    show tree.walk false (linkLimit - 1) false [a, named] [] = _
    rw [Node.walk]
    rfl
  have hresolve : tree.resolve [] (usualPath [a]) = .ok ([a, named], .file contents none) := by
    rw [Node.resolve, arrive_usual hat (by simp [ha]) (by decide +kernel), hlink]
    rfl
  have hnearest : Nearest tree [a, b] [a] := (nearest_self ⟨_, _, hresolve⟩).below hlowest
  have hload : load tree [a, b] (some (usualPath [a])) = .ok { folder := "x" } := by
    have hread : tree.read [a, b] (usualPath [a]) = .ok contents := by
      rw [Node.read, resolve_usualPath, hresolve]
      rfl
    have hdecode : Utf8.decode? contents = some "folder = 'x'" := by decide +kernel
    have hparse : parse "folder = 'x'".toList = .ok { folder := "x" } :=
      eq_ok_of_toOption (by decide +kernel)
    show loadFile tree [a, b] (usualPath [a]) = _
    rw [loadFile, hread]
    simp only [hdecode, hparse]
  exact ⟨rfl, hnearest, hloaded [a] rfl hnearest, (hloaded [a] rfl hnearest).same.trans hload⟩

end ManifestNotice.Settings
