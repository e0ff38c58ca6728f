import ManifestNotice.Commit
import ManifestNotice.Proofs.Text.Utf8

/-!
# The commit message, read

`read_eq_ok` and `messageOf_eq_ok` say what a commit message is: all that the
version control tool printed but the line ends behind it (`IsMessage`), where
the tool was found and ended well.
-/

namespace ManifestNotice

namespace Commit

/-- The message in what was printed: all but the line ends behind it. -/
def IsMessage (printed message : String) : Prop :=
  ∃ ends, printed.toList = message.toList ++ ends ∧ (∀ c ∈ ends, c = '\n' ∨ c = '\r') ∧
    ∀ c ∈ message.toList.getLast?, c ≠ '\n' ∧ c ≠ '\r'

theorem endsLine_iff : endsLine c = true ↔ c = '\n' ∨ c = '\r' := by
  simp [endsLine]

theorem eq_status_zero {exit : Exit} (h : exit == .status 0) : exit = .status 0 := by
  cases exit with
  | status code =>
    change (code == 0) = true at h
    rw [beq_iff_eq.mp h]
  | signal number => cases h

theorem endsLine_eq_false_iff : endsLine c = false ↔ c ≠ '\n' ∧ c ≠ '\r' := by
  rw [Bool.eq_false_iff, ne_eq, endsLine_iff, not_or]

theorem isMessage_dropEnd (text : String) :
    IsMessage text (String.ofList (Text.dropEnd endsLine text.toList)) := by
  obtain ⟨ends, hsplit, hends⟩ := Text.exists_dropEnd_append endsLine text.toList
  refine ⟨ends, by rwa [String.toList_ofList], fun c hc => endsLine_iff.mp (hends c hc),
    fun c hc => ?_⟩
  rw [String.toList_ofList] at hc
  exact endsLine_eq_false_iff.mp (Text.not_getLast_dropEnd hc)

theorem messageOf_eq_ok (h : messageOf outcome = .ok message) :
    outcome.exit = .status 0 ∧
      ∃ printed, outcome.stdout = Utf8.ofString printed ∧ IsMessage printed message := by
  unfold messageOf at h
  split at h
  · next hexit =>
    refine ⟨eq_status_zero hexit, ?_⟩
    split at h
    · next printed hd =>
      cases h
      exact ⟨printed, Utf8.decode?_eq_some_iff.mp hd, isMessage_dropEnd printed⟩
    · cases h
  · cases h

theorem messageOf_printed (he : outcome.exit = .status 0)
    (hp : outcome.stdout = Utf8.ofString printed) (hm : IsMessage printed message) :
    messageOf outcome = .ok message := by
  obtain ⟨ends, hprinted, hends, hlast⟩ := hm
  have hkept : Text.dropEnd endsLine printed.toList = message.toList := by
    rw [hprinted]
    exact Text.dropEnd_append (fun c hc => endsLine_iff.mpr (hends c hc))
      fun c hc => endsLine_eq_false_iff.mpr (hlast c hc)
  have hzero : (outcome.exit == .status 0) = true := by rw [he]; rfl
  rw [messageOf, if_pos hzero, Utf8.decode?_eq_some_iff.mpr hp]
  dsimp only
  rw [hkept, String.ofList_toList]

theorem messageOf_noText (he : outcome.exit = .status 0)
    (hn : ∀ text, outcome.stdout ≠ Utf8.ofString text) : messageOf outcome = .error .notText := by
  have hzero : (outcome.exit == .status 0) = true := by rw [he]; rfl
  have hnone : Utf8.decode? outcome.stdout = none := by
    rw [Option.eq_none_iff_forall_ne_some]
    exact fun text h => hn text (Utf8.decode?_eq_some_iff.mp h)
  rw [messageOf, if_pos hzero, hnone]

theorem messageOf_failed (he : outcome.exit ≠ .status 0) : messageOf outcome =
    .error (.failed outcome.exit (Text.trim (Utf8.decodeLossy outcome.stderr))) :=
  if_neg (mt eq_status_zero he)

theorem read_eq_ok (h : (read place none).1 = .ok message) :
    ∃ command program outcome, place.which? toolName = some command ∧
      place.start command = .ok (program, outcome) ∧ messageOf outcome = .ok message := by
  unfold read at h
  rw [Option.none_or] at h
  split at h
  · cases h
  · next command hw =>
    split at h
    · cases h
    · next program outcome hs => exact ⟨command, program, outcome, hw, hs, h⟩

end Commit

end ManifestNotice
