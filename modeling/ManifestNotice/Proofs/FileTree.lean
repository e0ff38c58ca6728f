import ManifestNotice.FileTree

/-!
# Plain paths

A path of plain names, with no link on the way, leads to what stands at its
place (`resolve_leads`).
-/

namespace ManifestNotice.Node

open FilePath

variable {Program : Type} {tree : Node Program}

theorem at?_concat (tree : Node Program) (place : FilePlace) (name : FileName) :
    tree.at? (place ++ [name]) = (tree.at? place).bind (·.child? name) := by
  induction place generalizing tree with
  | nil => exact Option.bind_fun_some _
  | cons first place ih =>
    rw [List.cons_append, at?, at?]
    cases tree.child? first with
    | none => rfl
    | some child => exact ih child

/-- Plain names that lead from a directory to what stands below it. -/
inductive Leads : Node Program → FilePlace → Node Program → Prop
  | here {node} : Leads node [] node
  | enter {entries child name rest node} : name ≠ dot → name ≠ dotDot → name.length ≤ nameLimit →
      (directory entries).child? name = some child → (∀ target, child ≠ .link target) →
      Leads child rest node → Leads (directory entries) (name :: rest) node

/-- One step of a walk, by a plain name of a directory. -/
theorem walk_name {entries : List (FileName × Node Program)} {name : FileName}
    (hat : tree.at? place = some (.directory entries)) (hdot : name ≠ dot) (hdots : name ≠ dotDot)
    (hlength : name.length ≤ nameLimit) (links : Nat) (rest : List FileName) :
    tree.walk false links false place (name :: rest) =
      match (directory entries).child? name with
      | none => if rest.isEmpty then .ok (.vacant place name) else .error .missing
      | some (.link target) =>
        match links with
        | 0 => .error .tooManyLinks
        | links + 1 =>
          if target.isEmpty then .error .missing
          else tree.walk false links (rest.isEmpty && wantsDirectory target)
            (if isAbsolute target then [] else place) (components target ++ rest)
      | some _ => tree.walk false links false (place ++ [name]) rest := by
  rw [walk, hat, if_neg (by simp [isDirectory]), if_neg (by simpa using hdot),
    if_neg (by simpa using hdots), if_neg (by simp)]
  dsimp only
  rw [if_neg (Nat.not_lt.mpr hlength), Bool.not_false, Bool.and_true]
  cases (directory entries).child? name with
  | none => rfl
  | some child =>
    cases child with
    | link target => cases links <;> rfl
    | file | directory => rfl

theorem walk_leads (h : Leads folder names node) (hat : tree.at? place = some folder)
    (links : Nat) (rest : List FileName) :
    tree.at? (place ++ names) = some node ∧
      tree.walk false links false place (names ++ rest) =
        tree.walk false links false (place ++ names) rest := by
  induction h generalizing place with
  | here => exact ⟨by rw [List.append_nil, hat], by rw [List.append_nil, List.nil_append]⟩
  | @enter entries child name names node hdot hdots hlength hchild hlink _ ih =>
    have hnext : tree.at? (place ++ [name]) = some child := by
      rw [at?_concat, hat, Option.bind_some, hchild]
    have hwalk : tree.walk false links false place (name :: (names ++ rest)) =
        tree.walk false links false (place ++ [name]) (names ++ rest) := by
      rw [walk_name hat hdot hdots hlength, hchild]
      cases child with
      | link target => exact absurd rfl (hlink target)
      | _ => rfl
    obtain ⟨hthere, hrest⟩ := ih hnext
    rw [List.append_assoc, List.singleton_append] at hthere hrest
    exact ⟨hthere, hwalk.trans hrest⟩

/-- The way along a path is the way along its names, from the top or from the
directory it is read in. -/
theorem arrive_eq_walk (tree : Node Program) (making : Bool) (current : FilePlace)
    (hz : path.contains 0 = false) (hne : path.isEmpty = false) (hl : path.length ≤ pathLimit) :
    tree.arrive making current path =
      tree.walk making linkLimit (wantsDirectory path) (if isAbsolute path then [] else current)
        (components path) := by
  simp only [arrive, hz, hne, if_neg (Nat.not_lt.mpr hl), Bool.false_eq_true, if_false]

theorem resolve_leads (current : FilePlace) (h : Leads tree (components path) node)
    (ha : isAbsolute path) (hz : path.contains 0 = false) (hl : path.length ≤ pathLimit)
    (hw : wantsDirectory path = false) :
    tree.resolve current path = .ok (components path, node) := by
  have hne : path.isEmpty = false := by
    cases path with
    | nil => cases ha
    | cons => rfl
  obtain ⟨hthere, hwalk⟩ := walk_leads h (rfl : tree.at? [] = some tree) linkLimit []
  rw [List.nil_append, List.append_nil] at hwalk
  rw [List.nil_append] at hthere
  rw [resolve, arrive_eq_walk tree false current hz hne hl, hw, if_pos ha, hwalk, walk, hthere]
  cases node <;> rfl

end ManifestNotice.Node
