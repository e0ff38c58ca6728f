import ManifestNotice.Notice
import ManifestNotice.Proofs.Text.Cut

/-!
# Notices, read back

A developers' notice is cut at its first marker. What is behind the marker is
the commit message, exactly if neither the folder nor the branch has a marker
in it; the message may have some. Where folders and branches are without
backticks, notices are equal only if all that they tell is
(`developers_read_back`).
-/

namespace ManifestNotice.Notice

def HasMarker (text : String) : Prop := marker.toList <:+: text.toList

instance (text : String) : Decidable (HasMarker text) :=
  inferInstanceAs (Decidable (marker.toList <:+: text.toList))

def backtick : Char := Char.ofNat 0x60

/-- Names that can stand between backticks. -/
def Quotable (name : String) : Prop := backtick ∉ name.toList

instance (name : String) : Decidable (Quotable name) :=
  inferInstanceAs (Decidable (backtick ∉ name.toList))

-- ---------------------------------------------------------------------------
-- Parts of a notice
-- ---------------------------------------------------------------------------

def opening (folder branch : String) : String :=
  plain folder ++ ", on the ```" ++ branch ++ "``` branch.\n"

/-- The fixed texts around the names, without the backticks next to them. -/
def beforeFolder : List Char :=
  headline.toList ++ "\nPlease run ```git pull``` and ```west update``` in your ``".toList

def betweenNames : List Char := "`` folder, on the ``".toList

def behindBranch : List Char := "`` branch.\n".toList

theorem fixed_texts :
    headline.toList ++ ("\n".toList ++
        "Please run ```git pull``` and ```west update``` in your ```".toList) =
      beforeFolder ++ [backtick] ∧
    "``` folder".toList ++ ", on the ```".toList = backtick :: betweenNames ++ [backtick] ∧
    "``` branch.\n".toList = backtick :: behindBranch := by
  decide +kernel

theorem opening_toList (folder branch : String) : (opening folder branch).toList =
    beforeFolder ++ backtick :: (folder.toList ++ backtick :: (betweenNames ++ backtick ::
      (branch.toList ++ backtick :: behindBranch))) := by
  obtain ⟨hbefore, hbetween, hbehind⟩ := fixed_texts
  calc (opening folder branch).toList
    _ = (headline.toList ++ ("\n".toList ++
            "Please run ```git pull``` and ```west update``` in your ```".toList)) ++
          (folder.toList ++ (("``` folder".toList ++ ", on the ```".toList) ++
            (branch.toList ++ "``` branch.\n".toList))) := by
      unfold opening plain instructions
      simp only [String.toList_append, List.append_assoc]
    _ = _ := by
      rw [hbefore, hbetween, hbehind]
      simp only [List.append_assoc, List.cons_append, List.nil_append]

theorem opening_plain (folder branch : String) : (opening folder branch).toList =
    (plain folder).toList ++ (", on the ```" ++ branch ++ "``` branch.\n").toList := by
  unfold opening
  simp only [String.toList_append, List.append_assoc]

theorem folder_stands (folder branch : String) :
    folder.toList <:+: (opening folder branch).toList := by
  rw [opening_toList, List.append_cons]
  exact List.infix_append' ..

theorem branch_stands (folder branch : String) :
    branch.toList <:+: (opening folder branch).toList := by
  refine ⟨(plain folder ++ ", on the ```").toList, "``` branch.\n".toList, ?_⟩
  unfold opening
  simp only [String.toList_append]

theorem developers_toList (folder branch commit : String) :
    (developers folder branch commit).toList =
      (opening folder branch).toList ++ (marker.toList ++ commit.toList) := by
  unfold developers
  rw [← opening, String.toList_append, String.toList_append, List.append_assoc]

theorem developers_parts (folder branch commit : String) :
    (developers folder branch commit).toList =
      beforeFolder ++ backtick :: (folder.toList ++ backtick :: (betweenNames ++ backtick ::
        (branch.toList ++ backtick :: (behindBranch ++ marker.toList ++ commit.toList)))) := by
  rw [developers_toList, opening_toList]
  simp only [List.append_assoc, List.cons_append]

-- ---------------------------------------------------------------------------
-- Reading back
-- ---------------------------------------------------------------------------

theorem cutAt?_developers (hf : ¬ HasMarker folder) (hb : ¬ HasMarker branch) (commit : String) :
    Text.cutAt? marker.toList (developers folder branch commit).toList =
      some ((opening folder branch).toList, commit.toList) := by
  -- the marker has no backtick, so it stands in one part or not at all
  have htick : backtick ∉ marker.toList := by decide +kernel
  have hbefore : ¬ marker.toList <:+: beforeFolder := by decide +kernel
  have hbetween : ¬ marker.toList <:+: betweenNames := by decide +kernel
  have hbehind : Text.cutAt? marker.toList (behindBranch ++ marker.toList) =
      some (behindBranch, []) := by decide +kernel
  rw [developers_parts, opening_toList, Text.cutAt?_append_cons htick hbefore,
    Text.cutAt?_append_cons htick hf, Text.cutAt?_append_cons htick hbetween,
    Text.cutAt?_append_cons htick hb, Text.cutAt?_append_right hbehind]
  rfl

theorem cutAt?_developers_iff (folder branch commit : String) :
    Text.cutAt? marker.toList (developers folder branch commit).toList =
        some ((opening folder branch).toList, commit.toList) ↔
      ¬ HasMarker folder ∧ ¬ HasMarker branch := by
  refine ⟨fun h => ?_, fun ⟨hf, hb⟩ => cutAt?_developers hf hb commit⟩
  rw [developers_toList] at h
  have hopening := Text.not_infix_of_cutAt? (by decide +kernel) h
  exact ⟨fun hf => hopening (hf.trans (folder_stands folder branch)),
    fun hb => hopening (hb.trans (branch_stands folder branch))⟩

theorem developers_injective (hf : Quotable folder) (hb : Quotable branch) (ho : Quotable other)
    (hn : Quotable name) (h : developers folder branch commit = developers other name message) :
    folder = other ∧ branch = name ∧ commit = message := by
  have h := congrArg String.toList h
  rw [developers_parts, developers_parts] at h
  have hfolder := List.tail_eq_of_cons_eq (List.append_cancel_left h)
  obtain ⟨hfolder, hrest⟩ := Text.append_cons_unique hf ho hfolder
  have hbranch := List.tail_eq_of_cons_eq (List.append_cancel_left hrest)
  obtain ⟨hbranch, hrest⟩ := Text.append_cons_unique hb hn hbranch
  exact ⟨String.toList_inj.mp hfolder, String.toList_inj.mp hbranch,
    String.toList_inj.mp (List.append_cancel_left hrest)⟩

theorem plain_prefix (folder branch commit : String) :
    (plain folder).toList <+: (developers folder branch commit).toList ∧
      plain folder ≠ developers folder branch commit := by
  have hsplit := developers_toList folder branch commit
  rw [opening_plain, List.append_assoc] at hsplit
  refine ⟨⟨_, hsplit.symm⟩, fun h => ?_⟩
  rw [← h] at hsplit
  have hrest := List.self_eq_append_right.mp hsplit
  have hmarker := (List.append_eq_nil_iff.mp (List.append_eq_nil_iff.mp hrest).2).1
  exact absurd hmarker (by decide +kernel)

/-- A notice tells its parts: the message is found behind the first marker, names
that are quotable cannot be confused, and the plain notice is a beginning of it. -/
theorem developers_read_back (folder branch commit : String) :
    (Text.cutAt? marker.toList (developers folder branch commit).toList =
        some ((opening folder branch).toList, commit.toList) ↔
      ¬ HasMarker folder ∧ ¬ HasMarker branch) ∧
    (∀ other name message, Quotable folder → Quotable branch → Quotable other → Quotable name →
      developers folder branch commit = developers other name message →
      folder = other ∧ branch = name ∧ commit = message) ∧
    (plain folder).toList <+: (developers folder branch commit).toList ∧
    plain folder ≠ developers folder branch commit := by
  refine ⟨cutAt?_developers_iff folder branch commit, ?_, plain_prefix folder branch commit⟩
  intro other name message hf hb ho hn h
  exact developers_injective hf hb ho hn h

/-- The message may look like the end of a notice. -/
theorem read_back_imitation :
    let commit := "``` branch.\n\nCommit message:\nx"
    (¬ HasMarker "ncs/nrf" ∧ ¬ HasMarker "main") ∧ (Quotable "ncs/nrf" ∧ Quotable "main") ∧
      Text.cutAt? marker.toList (developers "ncs/nrf" "main" commit).toList =
        some ((opening "ncs/nrf" "main").toList, commit.toList) ∧
      developers "ncs/nrf" "main" commit ≠ developers "ncs/nrf" "main" "x" := by
  intro commit
  have hmarker : ¬ HasMarker "ncs/nrf" ∧ ¬ HasMarker "main" := by decide +kernel
  have hquotable : Quotable "ncs/nrf" ∧ Quotable "main" := by decide +kernel
  obtain ⟨hcut, hinjective, -⟩ := developers_read_back "ncs/nrf" "main" commit
  refine ⟨hmarker, hquotable, hcut.mpr hmarker, fun h => ?_⟩
  have hsame := hinjective "ncs/nrf" "main" "x" hquotable.1 hquotable.2 hquotable.1 hquotable.2 h
  exact absurd hsame.2.2 (by decide +kernel)

end ManifestNotice.Notice
