import Mathlib.Data.List.Forall2
import ManifestNotice.Proofs.FileTree
import ManifestNotice.Proofs.Steps

/-!
# Trees that differ in their programs

Where the same stands at each place of two trees, but for the programs of files
and for what their contents may differ in, every path leads to the same place in
both, and what is read there differs no more (`read_alike`).
-/

namespace ManifestNotice.Node

open FilePath

variable {Program : Type} {same : Bytes → Bytes → Prop} {tree other : Node Program}
  {current : FilePlace} {path : Bytes}

/-- The same stands at a place: nothing, a directory, a link to the same target,
or files with related contents, whatever programs they are. -/
inductive StandsAlike (same : Bytes → Bytes → Prop) :
    Option (Node Program) → Option (Node Program) → Prop
  | nothing : StandsAlike same none none
  | file {contents second : Bytes} {program run : Option Program} : same contents second →
      StandsAlike same (some (.file contents program)) (some (.file second run))
  | directory {entries others : List (FileName × Node Program)} :
      StandsAlike same (some (.directory entries)) (some (.directory others))
  | link {target : Bytes} : StandsAlike same (some (.link target)) (some (.link target))

def TreesAlike (same : Bytes → Bytes → Prop) (tree other : Node Program) : Prop :=
  ∀ place, StandsAlike same (tree.at? place) (other.at? place)

inductive ArrivesAlike (same : Bytes → Bytes → Prop) : Arrival Program → Arrival Program → Prop
  | node {place : FilePlace} {node second : Node Program} :
      StandsAlike same (some node) (some second) →
      ArrivesAlike same (.node place node) (.node place second)
  | vacant {place : FilePlace} {name : FileName} :
      ArrivesAlike same (.vacant place name) (.vacant place name)

theorem TreesAlike.file {contents second : Bytes} (h : same contents second)
    (program run : Option Program) :
    TreesAlike same (.file contents program) (.file second run) := by
  intro place
  cases place with
  | nil => exact .file h
  | cons => exact .nothing

theorem child?_alike {entries others : List (FileName × Node Program)}
    (h : List.Forall₂ (fun e f => e.1 = f.1 ∧ TreesAlike same e.2 f.2) entries others)
    (name : FileName) (rest : FilePlace) : StandsAlike same
      (((directory entries).child? name).bind (·.at? rest))
      (((directory others).child? name).bind (·.at? rest)) := by
  induction h with
  | nil => exact .nothing
  | @cons e f entries others hentry h ih =>
    obtain ⟨hname, htrees⟩ := hentry
    simp only [child?, List.find?_cons] at ih ⊢
    rw [hname]
    cases f.1 == name with
    | true => exact htrees rest
    | false => exact ih

/-- Directories with the same names, and alike trees below them. -/
theorem TreesAlike.directory {entries others : List (FileName × Node Program)}
    (h : List.Forall₂ (fun e f => e.1 = f.1 ∧ TreesAlike same e.2 f.2) entries others) :
    TreesAlike same (.directory entries) (.directory others) := by
  intro place
  cases place with
  | nil => exact .directory
  | cons name rest =>
    rw [at?, at?]
    exact child?_alike h name rest

theorem StandsAlike.any_eq {first second : Option (Node Program)}
    (h : StandsAlike same first second) :
    second.any (!·.isDirectory) = first.any (!·.isDirectory) := by
  cases h <;> rfl

theorem StandsAlike.isSome_eq {first second : Option (Node Program)}
    (h : StandsAlike same first second) : second.isSome = first.isSome := by
  cases h <;> rfl

theorem walk_nil_alike (h : TreesAlike same tree other) (making : Bool) (links : Nat) (wants : Bool)
    (place : FilePlace) : Agree (ArrivesAlike same) (tree.walk making links wants place [])
      (other.walk making links wants place []) := by
  have hplace := h place
  rw [walk, walk]
  generalize tree.at? place = first at hplace
  generalize other.at? place = second at hplace
  cases hplace with
  | nothing => exact .ok (.node .directory)
  | directory => exact .ok (.node .directory)
  | file hsame =>
    cases wants
    · exact .ok (.node (.file hsame))
    · exact .error _
  | link =>
    cases wants
    · exact .ok (.node .link)
    · exact .error _

section
variable {making wants : Bool} {links : Nat} {place : FilePlace} {name : FileName}
  {rest : List FileName}

theorem walk_below_alike {entries others : List (FileName × Node Program)}
    (h : TreesAlike same tree other) (hat : tree.at? place = some (.directory entries))
    (hother : other.at? place = some (.directory others)) (hdot : ¬ name == dot)
    (hdots : ¬ name == dotDot) (hmaking : ¬ (making && wants && rest.isEmpty))
    (hrest : ∀ place, Agree (ArrivesAlike same) (tree.walk making links wants place rest)
      (other.walk making links wants place rest))
    (hlinks : ∀ fewer < links, ∀ wants place names, Agree (ArrivesAlike same)
      (tree.walk making fewer wants place names) (other.walk making fewer wants place names)) :
    Agree (ArrivesAlike same) (tree.walk making links wants place (name :: rest))
      (other.walk making links wants place (name :: rest)) := by
  have hbelow := h (place ++ [name])
  rw [at?_concat, at?_concat, hat, hother, Option.bind_some, Option.bind_some] at hbelow
  have hfile (entries : List (FileName × Node Program)) :
      ¬ (some (directory entries)).any (!·.isDirectory) := nofun
  rw [walk, walk, hat, hother]
  simp only [if_neg (hfile _), if_neg hdot, if_neg hdots, if_neg hmaking]
  by_cases hlong : name.length > nameLimit
  · simp only [if_pos hlong]
    exact .error _
  simp only [if_neg hlong]
  generalize child? name (directory entries) = child at hbelow
  generalize child? name (directory others) = found at hbelow
  cases hbelow with
  | nothing =>
    by_cases hlast : rest.isEmpty && !wants
    · simp only [if_pos hlast]
      exact .ok .vacant
    · simp only [if_neg hlast]
      exact .error _
  | file | directory => exact hrest _
  | @link target =>
    cases links with
    | zero => exact .error _
    | succ links =>
      by_cases hempty : target.isEmpty
      · simp only [if_pos hempty]
        exact .error _
      · simp only [if_neg hempty]
        exact hlinks links (Nat.lt_succ_self _) _ _ _

theorem walk_cons_alike (h : TreesAlike same tree other)
    (hrest : ∀ wants place, Agree (ArrivesAlike same) (tree.walk making links wants place rest)
      (other.walk making links wants place rest))
    (hlinks : ∀ fewer < links, ∀ wants place names, Agree (ArrivesAlike same)
      (tree.walk making fewer wants place names) (other.walk making fewer wants place names)) :
    Agree (ArrivesAlike same) (tree.walk making links wants place (name :: rest))
      (other.walk making links wants place (name :: rest)) := by
  have hplace := h place
  by_cases hfile : (tree.at? place).any (!·.isDirectory)
  · rw [walk, walk, hplace.any_eq, if_pos hfile, if_pos hfile]
    exact .error _
  by_cases hdot : name == dot
  · rw [walk, walk, hplace.any_eq]
    simp only [if_neg hfile, if_pos hdot]
    exact hrest wants place
  by_cases hdots : name == dotDot
  · rw [walk, walk, hplace.any_eq]
    simp only [if_neg hfile, if_neg hdot, if_pos hdots]
    exact hrest wants place.dropLast
  by_cases hmaking : making && wants && rest.isEmpty
  · rw [walk, walk, hplace.any_eq]
    simp only [if_neg hfile, if_neg hdot, if_neg hdots, if_pos hmaking]
    exact .error _
  generalize hat : tree.at? place = first at hplace
  generalize hother : other.at? place = second at hplace
  cases hplace with
  | nothing =>
    rw [walk, walk, hat, hother]
    simp only [Option.any_none, Bool.false_eq_true, if_false, if_neg hdot, if_neg hdots,
      if_neg hmaking]
    exact .error _
  | file | link => exact absurd (by rw [hat]; rfl) hfile
  | directory => exact walk_below_alike h hat hother hdot hdots hmaking (hrest wants) hlinks

end

/-- Each step of the way sees the same in both trees. -/
theorem walk_alike (h : TreesAlike same tree other) (making : Bool) (links : Nat) (wants : Bool)
    (place : FilePlace) (names : List FileName) :
    Agree (ArrivesAlike same) (tree.walk making links wants place names)
      (other.walk making links wants place names) := by
  induction links using Nat.strongRecOn generalizing wants place names with
  | ind links ih =>
    induction names generalizing wants place with
    | nil => exact walk_nil_alike h making links wants place
    | cons name rest hrest => exact walk_cons_alike h hrest ih

theorem arrive_alike (h : TreesAlike same tree other) (making : Bool) (current : FilePlace)
    (path : Bytes) : Agree (ArrivesAlike same) (tree.arrive making current path)
      (other.arrive making current path) := by
  have hwalk := walk_alike h making linkLimit (wantsDirectory path)
    (if isAbsolute path then [] else current) (components path)
  unfold arrive
  by_cases hnul : path.contains 0
  · simp only [if_pos hnul]
    exact .error _
  by_cases hempty : path.isEmpty
  · simp only [if_neg hnul, if_pos hempty]
    exact .error _
  by_cases hlong : path.length > pathLimit
  · simp only [if_neg hnul, if_neg hempty, if_pos hlong]
    exact .error _
  · simp only [if_neg hnul, if_neg hempty, if_neg hlong]
    exact hwalk

theorem resolve_alike (h : TreesAlike same tree other) (current : FilePlace) (path : Bytes) :
    Agree (fun first second => StandsAlike same (some first.2) (some second.2))
      (tree.resolve current path) (other.resolve current path) := by
  refine (arrive_alike h false current path).bind ?_
  rintro _ _ (hnode | _)
  · exact .ok hnode
  · exact .error _

theorem read_alike (h : TreesAlike same tree other) (current : FilePlace) (path : Bytes) :
    Agree same (tree.read current path) (other.read current path) := by
  refine (resolve_alike h current path).bind ?_
  rintro ⟨place, first⟩ ⟨spot, second⟩ hstands
  cases hstands with
  | file hsame => exact .ok hsame
  | directory | link => exact .error _

end ManifestNotice.Node
