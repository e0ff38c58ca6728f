import ManifestNotice.Proofs.Settings.Overlay
import ManifestNotice.Proofs.Text.Excerpt
import ManifestNotice.Proofs.Toml.Frame

/-!
# One setting aside

Where two settings files differ in the text of one setting, and in how it is
written, they are taken or refused alike: with the same other settings, or for
the same reason (`parse_reworded`). Only the number of the line that a refusal
points at counts the lines of the text it is about.
-/

namespace ManifestNotice.Settings

open Json.Grammar (Skips)
open Toml (Frame Span Entry)

-- ---------------------------------------------------------------------------
-- Reports
-- ---------------------------------------------------------------------------

variable {problem : Problem} {span : Span} {front above stop : List Char}

/-- A report on a line is the same whatever stands below the line. -/
theorem report_front (hlast : front.getLast? = some '\n') (hspan : span.Within 1 front.length)
    (rest : List Char) : Offence.report ⟨problem, span.moved rest.length⟩ (front ++ rest) =
      Offence.report ⟨problem, span⟩ front := by
  obtain ⟨hclosed, hopened, hbound⟩ := hspan
  have hstart : (front ++ rest).length - (span.moved rest.length).opened =
      front.length - span.opened := by
    simp only [Span.moved, List.length_append]
    omega
  have hsize : (span.moved rest.length).opened - (span.moved rest.length).closed =
      span.opened - span.closed := by
    simp only [Span.moved]
    omega
  simp only [Offence.report, hstart, hsize]
  generalize hlow : front.length - span.opened = start
  generalize hpart : span.opened - span.closed = size
  have hfits : start + size < front.length := by omega
  have hbreak : '\n' ∈ front.drop (start + size) := by
    obtain ⟨lines, rfl⟩ := List.getLast?_eq_some_iff.mp hlast
    rw [List.length_append, List.length_singleton] at hfits
    rw [List.drop_append_of_le_length (by omega)]
    exact List.mem_append_right _ List.mem_cons_self
  rw [List.take_append_of_le_length (by omega), List.drop_append_of_le_length (by omega),
    List.take_append_of_le_length (by rw [List.length_drop]; omega),
    List.drop_append_of_le_length (by omega), Text.excerpt_append _ _ _ _ _ _ hbreak]

/-- A report on a line says of the lines above only how many they are. -/
theorem report_below (problem : Problem) (hspan : span.Within 0 stop.length) :
    ∃ number line part after, ∀ above, above.getLast? = some '\n' →
      Offence.report ⟨problem, span⟩ (above ++ stop) =
        Text.numbered "TOML parse error" (above.count '\n' + number) line part after
          problem.message := by
  obtain ⟨-, -, hbound⟩ := hspan
  refine ⟨(stop.take (stop.length - span.opened)).count '\n' + 1,
    Text.lastLine (stop.take (stop.length - span.opened)),
    (stop.drop (stop.length - span.opened)).take (span.opened - span.closed),
    stop.drop (stop.length - span.opened + (span.opened - span.closed)), fun above hlast => ?_⟩
  have hstart : (above ++ stop).length - span.opened =
      above.length + (stop.length - span.opened) := by
    rw [List.length_append]
    omega
  simp only [Offence.report, hstart, Nat.add_assoc]
  rw [List.take_length_add_append, List.drop_length_add_append, List.drop_length_add_append]
  exact Text.excerpt_below hlast _ _ _ _ _

-- ---------------------------------------------------------------------------
-- What is read
-- ---------------------------------------------------------------------------

variable {aside : Setting} {settings : Settings} {text other : List Char} {entry : Entry}
  {offence : Offence} {old fresh : List Entry} {n : Nat}

/-- The texts differ in the text of a setting at the top, or in how it is
written, and in nothing else. -/
def Reworded (aside : Setting) (text other : List Char) : Prop :=
  ∃ (frame : Frame aside.key.toList) (value spelling otherValue otherSpelling : List Char),
    frame.Spells value spelling ∧ frame.Spells otherValue otherSpelling ∧
    text = frame.text spelling ∧ other = frame.text otherSpelling

def firstLine (setting : Setting) (back : List Char)
    (ends : ∀ c ∈ back.head?, c ≠ '"' ∧ c ≠ '\'') : Frame setting.key.toList where
  mark := []
  front := []
  head := setting.key.toList ++ " = ".toList
  span := ⟨(setting.key.toList ++ " = ".toList).length, 3⟩
  gap := [' ']
  back
  marks := .inl rfl
  leading := ⟨[], .none⟩
  path := .last (Skips.refl _ _)
    (.bare (key_bare setting).1 (key_bare setting).2 (.of_cons rfl _))
    (Json.Grammar.skips_cons rfl (Skips.refl _ _))
  spaces := Json.Grammar.skips_cons rfl (Skips.refl _ _)
  ends

/-- The settings have the same texts, but for one. -/
def SameBut (aside : Setting) (settings other : Settings) : Prop :=
  ∀ setting ≠ aside, other.get setting = settings.get setting

/-- What is read of two texts: settings that are the same but for one, or the
same refusal, told with the lines of its text. -/
inductive ReadAlike (aside : Setting) (text other : List Char) :
    Except Refusal Settings → Except Refusal Settings → Prop
  | malformed : ReadAlike aside text other (.error .malformed) (.error .malformed)
  | offending {offence second : Offence} : second.problem = offence.problem →
      Text.SameExcerpt text other (offence.report text) (second.report other) →
      ReadAlike aside text other (.error (.offending offence)) (.error (.offending second))
  | taken {settings second : Settings} : SameBut aside settings second →
      ReadAlike aside text other (.ok settings) (.ok second)

theorem Offends.moved (h : Offends entry offence) (n : Nat) :
    Offends (entry.moved n) ⟨offence.problem, offence.span.moved n⟩ := by
  cases h with
  | unknown h => exact .unknown h
  | kind hname hvalue => exact .kind hname hvalue

theorem Offends.within {low high : Nat} (h : Offends entry offence)
    (hentry : entry.Within low high) : offence.span.Within low high := by
  cases h with
  | unknown => exact hentry.1
  | kind => exact hentry.2

theorem sameExcerpt_report (offence : Offence) (lines text other : List Char) :
    Text.SameExcerpt text other (offence.report lines) (offence.report lines) :=
  ⟨_, _, _, _, _, _, _, rfl, rfl, .inl rfl⟩

section
variable {name value spelling : List Char} {frame : Frame name}

theorem text_front (frame : Frame name) (spelling : List Char) : frame.text spelling =
    (frame.mark ++ frame.front) ++ (frame.head ++ frame.lower spelling) := by
  rw [Frame.text, List.append_assoc]

theorem report_old (hspan : span.Within 1 frame.front.length) (problem : Problem)
    (spelling : List Char) :
    Offence.report ⟨problem, span.moved (frame.head ++ frame.lower spelling).length⟩
      (frame.text spelling) = Offence.report ⟨problem, span⟩ (frame.mark ++ frame.front) := by
  obtain ⟨statements, hleading⟩ := frame.leading
  have hlast : (frame.mark ++ frame.front).getLast? = some '\n' := by
    rcases hleading.getLast? with hnil | hlast
    · rw [hnil] at hspan
      obtain ⟨-, hopened, hbound⟩ := hspan
      rw [List.length_nil] at hbound
      omega
    · rw [List.getLast?_append, hlast, Option.some_or]
  rw [text_front]
  refine report_front hlast ⟨hspan.1, hspan.2.1, hspan.2.2.trans ?_⟩ _
  rw [List.length_append]
  omega

theorem report_fresh (hback : frame.back = above ++ stop) (hlast : above.getLast? = some '\n')
    (hspan : span.Within 0 stop.length) (problem : Problem) (spelling second : List Char) :
    Text.SameExcerpt (frame.text spelling) (frame.text second)
      (Offence.report ⟨problem, span⟩ (frame.text spelling))
      (Offence.report ⟨problem, span⟩ (frame.text second)) := by
  obtain ⟨number, line, part, after, hreport⟩ := report_below problem hspan
  have htext (spelling : List Char) : frame.text spelling =
      (frame.mark ++ frame.front ++ frame.head ++ spelling ++ above) ++ stop := by
    simp [Frame.text, Frame.lower, hback]
  have hends (spelling : List Char) :
      (frame.mark ++ frame.front ++ frame.head ++ spelling ++ above).getLast? = some '\n' := by
    rw [List.getLast?_append, hlast, Option.some_or]
  rw [htext, htext]
  refine ⟨_, _, _, line, part, after, _, hreport _ (hends _), hreport _ (hends _), .inr ?_⟩
  simp only [List.count_append]
  omega

end

section
variable {frame : Frame aside.key.toList} {value spelling : List Char}

theorem fits_entry (frame : Frame aside.key.toList) (value spelling : List Char) :
    Fits (frame.entry value spelling) := ⟨aside, value, rfl, rfl⟩

theorem overlaid_given (h : Overlaid {} (frame.entries old fresh value spelling) settings)
    (hentry : entry ∈ old ++ fresh) {setting : Setting} {words : List Char}
    (hgives : Gives entry setting words) : settings.get setting = String.ofList words := by
  rcases List.mem_append.mp hentry with hold | hfresh
  · exact h.given _ (List.mem_append_left _ (List.mem_map_of_mem hold)) _ _ hgives
  · exact h.given _ (List.mem_append_right _ (List.mem_cons_of_mem _ hfresh)) _ _ hgives

theorem overlaid_kept (h : Overlaid {} (frame.entries old fresh value spelling) settings)
    {setting : Setting} (hne : setting ≠ aside)
    (hnone : ∀ e ∈ old ++ fresh, e.key.name ≠ setting.key.toList) :
    settings.get setting = ({} : Settings).get setting := by
  refine h.kept setting fun e he hname => ?_
  rcases List.mem_append.mp he with hold | he
  · obtain ⟨own, hown, rfl⟩ := List.mem_map.mp hold
    exact hnone own (List.mem_append_left _ hown) hname
  · rcases List.mem_cons.mp he with rfl | hfresh
    · exact hne (key_injective hname).symm
    · exact hnone e (List.mem_append_right _ hfresh) hname

theorem sameBut_overlaid {second : Settings} {otherValue otherSpelling : List Char}
    (hfits : ∀ e ∈ old ++ fresh, Fits e)
    (h : Overlaid {} (frame.entries old fresh value spelling) settings)
    (hsecond : Overlaid {} (frame.entries old fresh otherValue otherSpelling) second) :
    SameBut aside settings second := by
  intro setting hne
  by_cases hnamed : ∃ e ∈ old ++ fresh, e.key.name = setting.key.toList
  · obtain ⟨e, he, hname⟩ := hnamed
    obtain ⟨own, words, hgives⟩ := hfits e he
    obtain rfl := key_injective (hname.symm.trans hgives.1)
    rw [overlaid_given h he hgives, overlaid_given hsecond he hgives]
  · have hnone : ∀ e ∈ old ++ fresh, e.key.name ≠ setting.key.toList := fun e he hname =>
      hnamed ⟨e, he, hname⟩
    rw [overlaid_kept h hne hnone, overlaid_kept hsecond hne hnone]

theorem parse_above {before after : List Entry} (h : frame.Spells value spelling)
    (hdivides : frame.Divides (before ++ entry :: after) fresh) (hbefore : ∀ e ∈ before, Fits e)
    (hoffends : Offends entry offence) : parse (frame.text spelling) = .error (.offending
      ⟨offence.problem, offence.span.moved (frame.head ++ frame.lower spelling).length⟩) := by
  have hdocument := hdivides.isDocument h
  rw [Frame.entries, List.map_append, List.map_cons, List.append_assoc, List.cons_append]
    at hdocument
  exact parse_offending hdocument (List.forall_mem_map.mpr hbefore) (hoffends.moved _)

theorem parse_below {before after : List Entry} (h : frame.Spells value spelling)
    (hdivides : frame.Divides old (before ++ entry :: after)) (hold : ∀ e ∈ old, Fits e)
    (hbefore : ∀ e ∈ before, Fits e) (hoffends : Offends entry offence) :
    parse (frame.text spelling) = .error (.offending offence) := by
  have hdocument := hdivides.isDocument h
  rw [Frame.entries, ← List.cons_append, ← List.append_assoc] at hdocument
  have hfits : ∀ e ∈ frame.entry value spelling :: before, Fits e :=
    List.forall_mem_cons.mpr ⟨fits_entry frame value spelling, hbefore⟩
  refine parse_offending hdocument (List.forall_mem_append.mpr ⟨?_, hfits⟩) hoffends
  exact List.forall_mem_map.mpr hold

theorem fits_entries (hfits : ∀ e ∈ old ++ fresh, Fits e) :
    ∀ e ∈ frame.entries old fresh value spelling, Fits e := by
  obtain ⟨hold, hfresh⟩ := List.forall_mem_append.mp hfits
  refine List.forall_mem_append.mpr ⟨List.forall_mem_map.mpr hold, ?_⟩
  exact List.forall_mem_cons.mpr ⟨fits_entry frame value spelling, hfresh⟩

end

theorem parse_reworded (h : Reworded aside text other) :
    ReadAlike aside text other (parse text) (parse other) := by
  obtain ⟨frame, value, spelling, otherValue, otherSpelling, hspells, hother, rfl, rfl⟩ := h
  by_cases hdocument : ∃ old fresh, frame.Divides old fresh
  · obtain ⟨old, fresh, hdivides⟩ := hdocument
    rcases fit_or_first old with hold | ⟨before, e, after, offence, rfl, hbefore, hoffends⟩
    · rcases fit_or_first fresh with hfresh | ⟨before, e, after, offence, rfl, hbefore, hoffends⟩
      · have hfits := List.forall_mem_append.mpr ⟨hold, hfresh⟩
        obtain ⟨settings, hfirst, hover⟩ :=
          parse_overlaid (hdivides.isDocument hspells) (fits_entries hfits)
        obtain ⟨second, hsecond, hover'⟩ :=
          parse_overlaid (hdivides.isDocument hother) (fits_entries hfits)
        rw [hfirst, hsecond]
        exact .taken (sameBut_overlaid hfits hover hover')
      · rw [parse_below hspells hdivides hold hbefore hoffends,
          parse_below hother hdivides hold hbefore hoffends]
        rcases hdivides.fresh_within with hnil | ⟨above, stop, hback, hlast, hwithin⟩
        · simp at hnil
        · have hspan := hoffends.within (hwithin e (by simp))
          exact .offending rfl (report_fresh hback hlast hspan _ _ _)
    · rw [parse_above hspells hdivides hbefore hoffends,
        parse_above hother hdivides hbefore hoffends]
      have hspan := hoffends.within (hdivides.old_within e (by simp))
      refine .offending rfl ?_
      rw [report_old hspan, report_old hspan]
      exact sameExcerpt_report _ _ _ _
  · have hnone {value spelling : List Char} (h : frame.Spells value spelling) :
        parse (frame.text spelling) = .error .malformed :=
      parse_malformed fun entries hentries =>
        let ⟨old, fresh, hdivides, _⟩ := (Frame.isDocument_iff h).mp hentries
        hdocument ⟨old, fresh, hdivides⟩
    rw [hnone hspells, hnone hother]
    exact .malformed

end ManifestNotice.Settings
