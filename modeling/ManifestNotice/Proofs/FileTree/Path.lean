import ManifestNotice.Proofs.FileTree

/-!
# Paths of places

The path that is written for a place, from the top, is read back as its names
(`components_ofPlace`) and leads through its directories (`leads_directory`) to
the entry of the last (`arrive_entry`), be that there, a link or nothing.
-/

namespace ManifestNotice

open FilePath

structure FileName.Proper (name : FileName) : Prop where
  nonempty : name ≠ []
  noSlash : slash ∉ name
  noNul : 0 ∉ name
  notDot : name ≠ dot
  notDotDot : name ≠ dotDot
  short : name.length ≤ nameLimit

instance (name : FileName) : Decidable name.Proper :=
  decidable_of_iff (name ≠ [] ∧ slash ∉ name ∧ 0 ∉ name ∧ name ≠ dot ∧ name ≠ dotDot ∧
      name.length ≤ nameLimit)
    ⟨fun ⟨h, hs, hz, hd, hdd, hl⟩ => ⟨h, hs, hz, hd, hdd, hl⟩,
      fun ⟨h, hs, hz, hd, hdd, hl⟩ => ⟨h, hs, hz, hd, hdd, hl⟩⟩

namespace FilePath

variable {place : FilePlace} {name : FileName}

theorem ofPlace_concat (place : FilePlace) (name : FileName) :
    ofPlace (place ++ [name]) = ofPlace place ++ slash :: name := by
  simp [ofPlace]

theorem slash_intercalate (place : FilePlace) :
    [slash].intercalate ([] :: place) = ofPlace place := by
  cases place with
  | nil => rfl
  | cons name place =>
    rw [List.intercalate_cons_cons, List.nil_append, List.singleton_append]
    induction place generalizing name with
    | nil => simp [ofPlace]
    | cons next place ih =>
      rw [List.intercalate_cons_cons, ofPlace, List.flatMap_cons, ← ofPlace, ← ih next]
      simp

theorem components_ofPlace (h : ∀ name ∈ place, name.Proper) :
    components (ofPlace place) = place := by
  have hsplit : (ofPlace place).splitOn slash = [] :: place := by
    rw [← slash_intercalate, List.splitOn_intercalate]
    · intro part hm
      rcases List.mem_cons.mp hm with rfl | hm
      · exact List.not_mem_nil
      · exact (h part hm).noSlash
    · exact List.cons_ne_nil _ _
  rw [components, hsplit, List.filter_cons_of_neg (by simp), List.filter_eq_self]
  intro part hm
  simpa using (h part hm).nonempty

theorem getLast?_ofPlace (place : FilePlace) (h : name.Proper) :
    (ofPlace (place ++ [name])).getLast? ≠ some slash := by
  rw [ofPlace_concat, List.getLast?_append, List.getLast?_cons, Option.some_or]
  intro hslash
  cases hl : name.getLast? with
  | none => exact h.nonempty (List.getLast?_eq_none_iff.mp hl)
  | some c =>
    rw [hl] at hslash
    cases hslash
    exact h.noSlash (List.mem_of_getLast? hl)

/-- The path of a name in a directory, the top or one below it. -/
theorem join_ofPlace (h : ∀ name ∈ place, name.Proper) (name : FileName) :
    join (if place.isEmpty then [slash] else ofPlace place) name = ofPlace (place ++ [name]) := by
  rw [ofPlace_concat]
  rcases List.eq_nil_or_concat place with rfl | ⟨above, last, rfl⟩
  · rfl
  · rw [List.concat_eq_append] at h ⊢
    have hend := getLast?_ofPlace above (h last (by simp))
    have hne : ofPlace (above ++ [last]) ≠ [] := by simp [ofPlace_concat]
    simp [join, hend, hne]

theorem components_name (h : name.Proper) : components name = [name] := by
  rw [components, List.splitOn_eq_singleton h.noSlash,
    List.filter_cons_of_pos (by simpa using h.nonempty), List.filter_nil]

theorem isAbsolute_name (h : name.Proper) : isAbsolute name = false :=
  beq_eq_false_iff_ne.mpr fun hslash => h.noSlash (List.mem_of_head? hslash)

theorem wantsDirectory_name (h : name.Proper) : wantsDirectory name = false :=
  beq_eq_false_iff_ne.mpr fun hslash => h.noSlash (List.mem_of_getLast? hslash)

theorem nul_ofPlace (h : ∀ name ∈ place, name.Proper) : (ofPlace place).contains 0 = false := by
  rw [Bool.eq_false_iff, ne_eq, List.contains_iff_mem]
  intro hm
  obtain ⟨name, hname, hin⟩ := List.mem_flatMap.mp hm
  rcases List.mem_cons.mp hin with hslash | hin
  · cases hslash
  · exact (h name hname).noNul hin

end FilePath

namespace Node

variable {Program : Type} {tree node : Node Program} {place : FilePlace}

/-- Only a directory has something below it. -/
theorem at?_cons_eq_some {name : FileName} (h : tree.at? (name :: place) = some node) :
    ∃ entries child, tree = .directory entries ∧ tree.child? name = some child ∧
      child.at? place = some node := by
  obtain ⟨child, hchild, hnode⟩ := Option.bind_eq_some_iff.mp h
  cases tree with
  | directory entries => exact ⟨entries, child, rfl, hchild, hnode⟩
  | file | link => cases hchild

theorem leads_directory {entries : List (FileName × Node Program)}
    (h : tree.at? place = some (.directory entries)) (hp : ∀ name ∈ place, name.Proper) :
    Leads tree place (.directory entries) := by
  induction place generalizing tree with
  | nil =>
    cases h
    exact .here
  | cons name place ih =>
    obtain ⟨_, child, rfl, hchild, hnode⟩ := at?_cons_eq_some h
    obtain ⟨hname, hplace⟩ := List.forall_mem_cons.mp hp
    refine .enter hname.notDot hname.notDotDot hname.short hchild ?_ (ih hnode hplace)
    -- nothing stands below a link
    rintro target rfl
    cases place <;> cases hnode

-- ---------------------------------------------------------------------------
-- Entries
-- ---------------------------------------------------------------------------

section
variable {entries : List (FileName × Node Program)} {name : FileName}

theorem arrive_ofPlace (tree : Node Program) (current : FilePlace)
    (h : ∀ part ∈ place ++ [name], part.Proper)
    (hl : (ofPlace (place ++ [name])).length ≤ pathLimit) :
    tree.arrive false current (ofPlace (place ++ [name])) =
      tree.walk false linkLimit false [] (place ++ [name]) := by
  have hne : (ofPlace (place ++ [name])).isEmpty = false := by
    rw [ofPlace_concat]
    simp
  have hwants : wantsDirectory (ofPlace (place ++ [name])) = false :=
    beq_eq_false_iff_ne.mpr (getLast?_ofPlace place (h name (by simp)))
  have habsolute : isAbsolute (ofPlace (place ++ [name])) = true := by
    cases place <;> rfl
  rw [arrive_eq_walk tree false current (nul_ofPlace h) hne hl, hwants, if_pos habsolute,
    components_ofPlace h]

theorem walk_entry (hat : tree.at? place = some (.directory entries)) (hname : name.Proper) :
    tree.walk false linkLimit false place [name] =
      match (directory entries).child? name with
      | none => .ok (.vacant place name)
      | some (.link target) =>
        if target.isEmpty then .error .missing
        else tree.walk false (linkLimit - 1) (wantsDirectory target)
          (if isAbsolute target then [] else place) (components target)
      | some node => .ok (.node (place ++ [name]) node) := by
  have hnext : tree.at? (place ++ [name]) = (directory entries).child? name := by
    rw [at?_concat, hat, Option.bind_some]
  rw [walk_name hat hname.notDot hname.notDotDot hname.short]
  cases hchild : (directory entries).child? name with
  | none => rfl
  | some child =>
    rw [hchild] at hnext
    cases child with
    | link target =>
      simp only [List.append_nil, List.isEmpty_nil, Bool.true_and]
      rfl
    | directory => rw [walk, hnext]
    | file =>
      rw [walk, hnext]
      rfl

/-- The path of an entry leads to it, or to where it leads on. -/
theorem arrive_entry (current : FilePlace) (hat : tree.at? place = some (.directory entries))
    (hplace : ∀ part ∈ place, part.Proper) (hname : name.Proper)
    (hl : (ofPlace (place ++ [name])).length ≤ pathLimit) :
    tree.arrive false current (ofPlace (place ++ [name])) =
      tree.walk false linkLimit false place [name] := by
  have hwalk := (walk_leads (leads_directory hat hplace) (rfl : tree.at? [] = some tree)
    linkLimit [name]).2
  rw [List.nil_append] at hwalk
  rw [arrive_ofPlace tree current (List.forall_mem_append.mpr
    ⟨hplace, List.forall_mem_singleton.mpr hname⟩) hl, hwalk]

theorem arrive_name (tree : Node Program) (current : FilePlace) (h : name.Proper) :
    tree.arrive false current name = tree.walk false linkLimit false current [name] := by
  have hz : name.contains 0 = false := by
    rw [Bool.eq_false_iff, ne_eq, List.contains_iff_mem]
    exact h.noNul
  have hne : name.isEmpty = false := List.isEmpty_eq_false_iff.mpr h.nonempty
  have hl : name.length ≤ pathLimit := Nat.le_trans h.short (by decide)
  rw [arrive_eq_walk tree false current hz hne hl, wantsDirectory_name h, isAbsolute_name h,
    if_neg Bool.false_ne_true, components_name h]

/-- A link to a name leads to what stands under that name beside it. -/
theorem walk_link {target : FileName} (hat : tree.at? place = some (.directory entries))
    (hname : name.Proper) (hchild : (directory entries).child? name = some (.link target))
    (htarget : target.Proper) :
    tree.walk false linkLimit false place [name] =
      tree.walk false (linkLimit - 1) false place [target] := by
  have hne : target.isEmpty = false := List.isEmpty_eq_false_iff.mpr htarget.nonempty
  rw [walk_entry hat hname, hchild]
  dsimp only
  rw [hne, if_neg Bool.false_ne_true, wantsDirectory_name htarget, isAbsolute_name htarget,
    if_neg Bool.false_ne_true, components_name htarget]

end

end Node

end ManifestNotice
