import ManifestNotice.Proofs.Text.Composed
import ManifestNotice.Proofs.Text.Utf8
import ManifestNotice.Url.Parse

/-!
# Hosts that end in a control

A control or a space at the end of a host is not lost on the way to the name's
one form, and no name may have one: such a host is refused
(`Host.parse?_of_edge`).
-/

namespace ManifestNotice.Url

-- ---------------------------------------------------------------------------
-- Percent encoding
-- ---------------------------------------------------------------------------

def StartsCode (c : Char) (rest : List Char) : Prop :=
  ∃ a b more m n, c = '%' ∧ rest = a :: b :: more ∧ Text.hexDigit? a = some m ∧
    Text.hexDigit? b = some n

theorem percentDecode_of_not_startsCode (h : ¬ StartsCode c rest) :
    percentDecode (c :: rest) = String.utf8EncodeChar c ++ percentDecode rest := by
  rw [percentDecode.eq_def]
  split
  · next heq => cases heq
  · next a b more heq =>
    obtain ⟨rfl, rfl⟩ := List.cons.inj heq
    split
    · next m n ha hb => exact absurd ⟨a, b, more, m, n, rfl, rfl, ha, hb⟩ h
    · rfl
  · next heq =>
    cases heq
    rfl

theorem percentDecode_append {c : Char} (h : Text.hexDigit? c = none) (text rest : List Char) :
    percentDecode (text ++ c :: rest) = percentDecode text ++ percentDecode (c :: rest) := by
  have hpassed (first : Char) (text : List Char) (hno : ¬ StartsCode first text) :
      ¬ StartsCode first (text ++ c :: rest) := by
    rintro ⟨a, b, more, m, n, hfirst, htext, ha, hb⟩
    rcases text with _ | ⟨x, _ | ⟨y, text⟩⟩
    · cases htext
      rw [h] at ha
      cases ha
    · cases htext
      rw [h] at hb
      cases hb
    · cases htext
      exact hno ⟨_, _, text, m, n, hfirst, rfl, ha, hb⟩
  induction text using percentDecode.induct with
  | case1 => rfl
  | case2 a b text m n hb ha ih =>
    simp only [List.cons_append, percentDecode, ha, hb, ih]
  | case3 a b text hno ih =>
    have hliteral : ¬ StartsCode '%' (a :: b :: text) := by
      rintro ⟨_, _, _, m, n, -, heq, ha, hb⟩
      cases heq
      exact hno m n ha hb
    rw [List.cons_append, percentDecode_of_not_startsCode (hpassed _ _ hliteral),
      percentDecode_of_not_startsCode hliteral, ih, List.append_assoc]
  | case4 first text hno ih =>
    have hliteral : ¬ StartsCode first text := by
      rintro ⟨a, b, more, m, n, hfirst, htext, -, -⟩
      exact hno a b more hfirst htext
    rw [List.cons_append, percentDecode_of_not_startsCode (hpassed _ _ hliteral),
      percentDecode_of_not_startsCode hliteral, ih, List.append_assoc]

-- ---------------------------------------------------------------------------
-- Punycode
-- ---------------------------------------------------------------------------

namespace Punycode

theorem Writer.pass_output (basic code : Nat) (w : Writer) (c : Char) :
    w.output <+: (w.pass basic code c).output := by
  unfold pass
  split
  · exact List.prefix_rfl
  · split
    · exact List.prefix_append ..
    · exact List.prefix_rfl

theorem Writer.foldl_output (basic code : Nat) (input : List Char) (w : Writer) :
    w.output <+: (input.foldl (pass basic code) w).output := by
  induction input generalizing w with
  | nil => exact List.prefix_rfl
  | cons c input ih => exact (w.pass_output basic code c).trans (ih _)

theorem Writer.insert_output (input : List Char) (basic start : Nat) (codes : List Nat)
    (w : Writer) : w.output <+: (insert input basic start codes w).output := by
  induction codes generalizing start w with
  | nil => exact List.prefix_rfl
  | cons code codes ih =>
    rw [insert]
    refine List.IsPrefix.trans ?_ (ih (code + 1) _)
    exact foldl_output basic code input
      { w with delta := w.delta + (code - start) * (w.handled + 1) }

theorem mem_encode {c : Char} {label : List Char} (hc : c ∈ label) (h : isBasic c) :
    c ∈ encode label := by
  have hbasic : c ∈ label.filter isBasic := List.mem_filter.mpr ⟨hc, h⟩
  have hsome : (label.filter isBasic).isEmpty = false := by
    cases hl : label.filter isBasic with
    | nil => rw [hl] at hbasic; cases hbasic
    | cons => rfl
  unfold encode
  apply (Writer.insert_output ..).subset
  simp only [hsome, Bool.false_eq_true, if_false]
  exact List.mem_append_left _ hbasic

end Punycode

-- ---------------------------------------------------------------------------
-- Names
-- ---------------------------------------------------------------------------

theorem exists_of_mapM {f : α → Option β} {list : List α} {values : List β}
    (h : list.mapM f = some values) (ha : a ∈ list) : ∃ b ∈ values, f a = some b := by
  induction list generalizing values with
  | nil => cases ha
  | cons first list ih =>
    simp only [List.mapM_cons, Option.bind_eq_bind, Option.bind_eq_some_iff, Option.pure_def,
      Option.some.injEq] at h
    obtain ⟨value, hvalue, rest, hrest, rfl⟩ := h
    rcases List.mem_cons.mp ha with rfl | ha
    · exact ⟨value, List.mem_cons_self, hvalue⟩
    · obtain ⟨b, hb, hab⟩ := ih hrest ha
      exact ⟨b, List.mem_cons_of_mem _ hb, hab⟩

theorem mem_intercalate {sep : List α} {lists : List (List α)} (hl : list ∈ lists) (ha : a ∈ list) :
    a ∈ sep.intercalate lists := by
  induction lists with
  | nil => cases hl
  | cons first lists ih =>
    cases lists with
    | nil =>
      rw [List.intercalate_singleton]
      rwa [List.mem_singleton.mp hl] at ha
    | cons second lists =>
      rw [List.intercalate_cons_cons]
      rcases List.mem_cons.mp hl with rfl | hl
      · exact List.mem_append_left _ (List.mem_append_left _ ha)
      · exact List.mem_append_right _ (ih hl)

theorem mem_of_mem_intercalate {sep : List α} {lists : List (List α)}
    (ha : a ∈ sep.intercalate lists) (hs : a ∉ sep) : ∃ list ∈ lists, a ∈ list := by
  induction lists with
  | nil => cases ha
  | cons first lists ih =>
    cases lists with
    | nil =>
      rw [List.intercalate_singleton] at ha
      exact ⟨first, List.mem_cons_self, ha⟩
    | cons second lists =>
      rw [List.intercalate_cons_cons, List.append_assoc, List.mem_append, List.mem_append] at ha
      rcases ha with ha | ha | ha
      · exact ⟨first, List.mem_cons_self, ha⟩
      · exact absurd ha hs
      · obtain ⟨list, hl, ha⟩ := ih ha
        exact ⟨list, List.mem_cons_of_mem _ hl, ha⟩

theorem exists_mem_splitOn (mark : Char) {c : Char} {text : List Char} (hc : c ∈ text)
    (h : c ≠ mark) : ∃ part ∈ text.splitOn mark, c ∈ part := by
  have hwhole : [mark].intercalate (text.splitOn mark) = text := List.intercalate_splitOn mark
  rw [← hwhole] at hc
  exact mem_of_mem_intercalate hc (by simpa using h)

namespace Domain

theorem Label.mem_ascii {c : Char} {text : List Char} {label : Label} (h : ofText? text = some label)
    (hc : c ∈ text) (hb : Punycode.isBasic c) : c ∈ label.ascii := by
  unfold ofText? at h
  split at h
  · split at h
    · obtain ⟨reading, -, rfl⟩ := Option.map_eq_some_iff.mp h
      exact hc
    · cases h
  · split at h
    · cases h
      exact hc
    · split at h
      · cases h
        exact List.mem_append_right _ (Punycode.mem_encode hc hb)
      · cases h

theorem mem_ascii? {c : Char} {name text : List Char} (h : ascii? (name ++ [c]) = some text)
    (hc : isAscii c) (hs : c.toLower = c) (hdot : c ≠ '.') : c ∈ text := by
  have hlow : c.toNat < 0x80 := by simpa [isAscii] using hc
  have hlast : written? c = some [c] := by rw [written?, if_pos hc, hs]
  simp only [ascii?, Option.bind_eq_bind, Option.bind_eq_some_iff, List.mapM_append,
    List.mapM_cons, List.mapM_nil, hlast, Option.pure_def, Option.some.injEq] at h
  obtain ⟨written, ⟨first, -, last, ⟨_, rfl, _, rfl, rfl⟩, rfl⟩, labels, hlabels, htext⟩ := h
  rw [List.flatten_append, List.flatten_singleton, Text.composed_append _ hlow] at hlabels
  obtain ⟨part, hpart, hin⟩ := exists_mem_splitOn '.'
    (List.mem_append_right (Text.composed first.flatten) (List.mem_singleton_self c)) hdot
  obtain ⟨label, hlabel, hof⟩ := exists_of_mapM hlabels hpart
  split at htext
  · cases htext
    exact mem_intercalate (List.mem_map_of_mem hlabel)
      (Label.mem_ascii hof hin (by simpa [Punycode.isBasic] using hlow))
  · cases htext

end Domain

-- ---------------------------------------------------------------------------
-- Hosts
-- ---------------------------------------------------------------------------

section
variable {c : Char}

theorem forall_edge (holds : Char → Prop) (hall : ∀ n < 0x21, holds (Char.ofNat n))
    (h : isEdge c) : holds c := by
  have hle : c.toNat ≤ 0x20 := by simpa [isEdge] using h
  rw [← Char.ofNat_toNat c]
  exact hall c.toNat (by omega)

theorem isAscii_of_edge (h : isEdge c) : Domain.isAscii c :=
  forall_edge (fun c => Domain.isAscii c) (by decide) h

theorem toLower_of_edge (h : isEdge c) : c.toLower = c :=
  forall_edge (fun c => c.toLower = c) (by decide) h

theorem hexDigit?_of_edge (h : isEdge c) : Text.hexDigit? c = none :=
  forall_edge (fun c => Text.hexDigit? c = none) (by decide) h

theorem isForbiddenInName_of_edge (h : isEdge c) : Host.isForbiddenInName c :=
  forall_edge (fun c => Host.isForbiddenInName c) (by decide) h

end

namespace Host

theorem ofName?_of_edge {c : Char} (h : isEdge c) (text : List Char) :
    ofName? (text ++ [c]) = none := by
  have hdecoded : (Utf8.decodeLossy (percentDecode (text ++ [c]))).toList =
      (Utf8.decodeLossy (percentDecode text)).toList ++ [c] := by
    have hlast : percentDecode [c] = Utf8.encode [c] := by
      rw [percentDecode_of_not_startsCode (by rintro ⟨_, _, _, _, _, _, h, _⟩; cases h)]
      simp [percentDecode, Utf8.encode]
    rw [percentDecode_append (hexDigit?_of_edge h), hlast, Utf8.toList_decodeLossy_append]
  unfold ofName?
  rw [hdecoded]
  cases hname : Domain.ascii? ((Utf8.decodeLossy (percentDecode text)).toList ++ [c]) with
  | none => rfl
  | some name =>
    have hdot : c ≠ '.' := by rintro rfl; exact absurd h (by decide)
    have hmem := Domain.mem_ascii? hname (isAscii_of_edge h) (toLower_of_edge h) hdot
    have hforbidden : name.any isForbiddenInName :=
      List.any_eq_true.mpr ⟨c, hmem, isForbiddenInName_of_edge h⟩
    simp only [Option.bind_eq_bind, Option.bind_some, hforbidden, Bool.or_true, if_true]

theorem parse?_of_edge {c : Char} (h : isEdge c) (text : List Char) :
    parse? true (text ++ [c]) = none := by
  unfold parse?
  split
  · next inner heq =>
    cases text with
    | nil =>
      cases heq
      exact absurd h (by decide)
    | cons first text =>
      obtain ⟨rfl, rfl⟩ := List.cons.inj heq
      rw [if_neg]
      rw [List.append_eq, List.getLast?_concat, beq_iff_eq, Option.some.injEq]
      rintro rfl
      exact absurd h (by decide)
  · exact ofName?_of_edge h text

end Host

end ManifestNotice.Url
