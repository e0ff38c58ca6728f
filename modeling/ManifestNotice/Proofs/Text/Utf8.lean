import ManifestNotice.Text.Utf8

/-!
# Reading undoes writing

`decode?_eq_some_iff`: strict reading takes exactly the bytes that a text is
written in, and gives that text. A character takes one of four forms; each is
told once as what the reader sees (`Form`) and shown to be what is written.
Whatever stands before a text, it is read as it is (`items_append_encode`).
-/

namespace ManifestNotice.Utf8

-- ---------------------------------------------------------------------------
-- Bytes as numbers
-- ---------------------------------------------------------------------------

theorem toNat_byte (h : n < 256) : (UInt8.ofNat n).toNat = n := by
  simpa using h

theorem ofNat_eq (h : n = b.toNat) : UInt8.ofNat n = b := by
  rw [h]
  exact UInt8.ofNat_toNat

theorem val_ofNat (h : v < 0xD800 ∨ 0xDFFF < v ∧ v < 0x110000) : (Char.ofNat v).val.toNat = v := by
  unfold Char.ofNat
  rw [dif_pos (show v.isValidChar from h)]
  rfl

theorem follows_iff : follows lead b = true ↔
    (0x80 ≤ b.toNat ∧ b.toNat ≤ 0xBF) ∧
      (lead.toNat = 0xE0 → 0xA0 ≤ b.toNat) ∧ (lead.toNat = 0xF0 → 0x90 ≤ b.toNat) ∧
      (lead.toNat = 0xED → b.toNat ≤ 0x9F) ∧ (lead.toNat = 0xF4 → b.toNat ≤ 0x8F) := by
  simp only [follows, Bool.and_eq_true, decide_eq_true_eq, beq_iff_eq, UInt8.le_iff_toNat_le,
    ← UInt8.toNat_inj, apply_ite UInt8.toNat, UInt8.reduceToNat]
  grind

theorem isTail_iff : isTail b = true ↔ 0x80 ≤ b.toNat ∧ b.toNat ≤ 0xBF := by
  simp [isTail, UInt8.le_iff_toNat_le]

-- ---------------------------------------------------------------------------
-- Forms
-- ---------------------------------------------------------------------------

/-- The code point that is read off a lead byte and the bytes behind it, and
what is left of these. -/
inductive Form : UInt8 → Bytes → Nat → Bytes → Prop
  | one {lead rest} : lead.toNat < 0x80 → Form lead rest lead.toNat rest
  | two {lead b rest} : 0xC2 ≤ lead.toNat → lead.toNat < 0xE0 → follows lead b →
      Form lead (b :: rest) (lead.toNat % 32 * 64 + payload b) rest
  | three {lead b c rest} : 0xE0 ≤ lead.toNat → lead.toNat < 0xF0 → follows lead b → isTail c →
      Form lead (b :: c :: rest) ((lead.toNat % 16 * 64 + payload b) * 64 + payload c) rest
  | four {lead b c d rest} : 0xF0 ≤ lead.toNat → lead.toNat ≤ 0xF4 → follows lead b →
      isTail c → isTail d →
      Form lead (b :: c :: d :: rest)
        (((lead.toNat % 8 * 64 + payload b) * 64 + payload c) * 64 + payload d) rest

theorem Form.item (h : Form lead bytes v rest) :
    item lead bytes = (some (Char.ofNat v), rest) := by
  unfold Utf8.item
  cases h with
  | one h => rw [if_pos (by simpa [UInt8.lt_iff_toNat_lt] using h)]
  | two hl hh hf =>
    have h1 : ¬ lead < 0x80 := by simp [UInt8.lt_iff_toNat_lt]; omega
    have h2 : (0xC2 ≤ lead && lead ≤ 0xF4) = true := by simp [UInt8.le_iff_toNat_le]; omega
    have h3 : lead < 0xE0 := by simpa [UInt8.lt_iff_toNat_lt] using hh
    simp only [h1, h2, h3, hf, if_true, if_false, Bool.not_true, Bool.false_eq_true]
  | three hl hh hf hc =>
    have h1 : ¬ lead < 0x80 := by simp [UInt8.lt_iff_toNat_lt]; omega
    have h2 : (0xC2 ≤ lead && lead ≤ 0xF4) = true := by simp [UInt8.le_iff_toNat_le]; omega
    have h3 : ¬ lead < 0xE0 := by simp [UInt8.lt_iff_toNat_lt]; omega
    have h4 : lead < 0xF0 := by simpa [UInt8.lt_iff_toNat_lt] using hh
    simp only [h1, h2, h3, h4, hf, hc, if_true, if_false, Bool.not_true, Bool.false_eq_true]
  | four hl hh hf hc hd =>
    have h1 : ¬ lead < 0x80 := by simp [UInt8.lt_iff_toNat_lt]; omega
    have h2 : (0xC2 ≤ lead && lead ≤ 0xF4) = true := by simp [UInt8.le_iff_toNat_le]; omega
    have h3 : ¬ lead < 0xE0 := by simp [UInt8.lt_iff_toNat_lt]; omega
    have h4 : ¬ lead < 0xF0 := by simp [UInt8.lt_iff_toNat_lt]; omega
    simp only [h1, h2, h3, h4, hf, hc, hd, if_true, if_false, Bool.not_true, Bool.false_eq_true]

/-- A character is read in one of the forms only. -/
theorem form_of_item (h : item lead bytes = (some c, rest)) :
    ∃ v, c = Char.ofNat v ∧ Form lead bytes v rest := by
  unfold item at h
  split at h
  · next h1 =>
    cases h
    exact ⟨_, rfl, .one (by simpa [UInt8.lt_iff_toNat_lt] using h1)⟩
  split at h
  case isFalse => cases h
  next h2 =>
  simp only [Bool.and_eq_true, decide_eq_true_eq, UInt8.le_iff_toNat_le, UInt8.reduceToNat] at h2
  split at h
  case h_1 => cases h
  next b rest =>
  split at h
  case isTrue => cases h
  next hf =>
  have hf : follows lead b := by simpa using hf
  split at h
  · next h3 =>
    cases h
    exact ⟨_, rfl, .two h2.1 (by simpa [UInt8.lt_iff_toNat_lt] using h3) hf⟩
  next h3 =>
  have h3 : 0xE0 ≤ lead.toNat := by simpa [UInt8.lt_iff_toNat_lt] using h3
  split at h
  case h_1 => cases h
  next c rest =>
  split at h
  case isTrue => cases h
  next hc =>
  have hc : isTail c := by simpa using hc
  split at h
  · next h4 =>
    cases h
    exact ⟨_, rfl, .three h3 (by simpa [UInt8.lt_iff_toNat_lt] using h4) hf hc⟩
  next h4 =>
  split at h
  case h_1 => cases h
  next d rest =>
  split at h
  case isTrue => cases h
  next hd =>
  cases h
  exact ⟨_, rfl, .four (by simpa [UInt8.lt_iff_toNat_lt] using h4) h2.2 hf hc (by simpa using hd)⟩

-- ---------------------------------------------------------------------------
-- Writing
-- ---------------------------------------------------------------------------

theorem encodeChar_one (h : v < 0x80) : String.utf8EncodeChar (Char.ofNat v) = [UInt8.ofNat v] := by
  rw [String.utf8EncodeChar, val_ofNat (by omega)]
  simp only [if_pos (show v ≤ 0x7f by omega)]

theorem encodeChar_two (hl : 0x80 ≤ v) (hh : v < 0x800) :
    String.utf8EncodeChar (Char.ofNat v) =
      [UInt8.ofNat (v / 64 + 0xC0), UInt8.ofNat (v % 64 + 0x80)] := by
  rw [String.utf8EncodeChar, val_ofNat (by omega)]
  simp only [if_neg (show ¬ v ≤ 0x7f by omega), if_pos (show v ≤ 0x7ff by omega)]
  rw [Nat.mod_eq_of_lt (show v / 64 < 0x20 by omega)]

theorem encodeChar_three (hl : 0x800 ≤ v) (hh : v < 0x10000) (hs : v < 0xD800 ∨ 0xDFFF < v) :
    String.utf8EncodeChar (Char.ofNat v) =
      [UInt8.ofNat (v / 4096 + 0xE0), UInt8.ofNat (v / 64 % 64 + 0x80),
        UInt8.ofNat (v % 64 + 0x80)] := by
  rw [String.utf8EncodeChar, val_ofNat (by omega)]
  simp only [if_neg (show ¬ v ≤ 0x7f by omega), if_neg (show ¬ v ≤ 0x7ff by omega),
    if_pos (show v ≤ 0xffff by omega)]
  rw [Nat.mod_eq_of_lt (show v / 4096 < 0x10 by omega)]

theorem encodeChar_four (hl : 0x10000 ≤ v) (hh : v < 0x110000) :
    String.utf8EncodeChar (Char.ofNat v) =
      [UInt8.ofNat (v / 262144 + 0xF0), UInt8.ofNat (v / 4096 % 64 + 0x80),
        UInt8.ofNat (v / 64 % 64 + 0x80), UInt8.ofNat (v % 64 + 0x80)] := by
  rw [String.utf8EncodeChar, val_ofNat (by omega)]
  simp only [if_neg (show ¬ v ≤ 0x7f by omega), if_neg (show ¬ v ≤ 0x7ff by omega),
    if_neg (show ¬ v ≤ 0xffff by omega)]
  rw [Nat.mod_eq_of_lt (show v / 262144 < 8 by omega)]

theorem Form.encodeChar (h : Form lead bytes v rest) :
    lead :: bytes = String.utf8EncodeChar (Char.ofNat v) ++ rest := by
  cases h with
  | one h => rw [encodeChar_one h, UInt8.ofNat_toNat, List.singleton_append]
  | @two b rest hl hh hf =>
    have hf := follows_iff.mp hf
    simp only [payload]
    rw [encodeChar_two (by omega) (by omega), ofNat_eq (b := lead) (by omega),
      ofNat_eq (b := b) (by omega)]
    rfl
  | @three b c rest hl hh hf hc =>
    have hf := follows_iff.mp hf
    have hc := isTail_iff.mp hc
    simp only [payload]
    rw [encodeChar_three (by omega) (by omega) (by omega), ofNat_eq (b := lead) (by omega),
      ofNat_eq (b := b) (by omega), ofNat_eq (b := c) (by omega)]
    rfl
  | @four b c d rest hl hh hf hc hd =>
    have hf := follows_iff.mp hf
    have hc := isTail_iff.mp hc
    have hd := isTail_iff.mp hd
    simp only [payload]
    rw [encodeChar_four (by omega) (by omega), ofNat_eq (b := lead) (by omega),
      ofNat_eq (b := b) (by omega), ofNat_eq (b := c) (by omega), ofNat_eq (b := d) (by omega)]
    rfl

/-- What is written for a character is one of the forms. -/
theorem form_encodeChar (h : v < 0xD800 ∨ 0xDFFF < v ∧ v < 0x110000) (rest : Bytes) :
    ∃ lead bytes, String.utf8EncodeChar (Char.ofNat v) ++ rest = lead :: bytes ∧
      Form lead bytes v rest := by
  rcases (by omega : v < 0x80 ∨ 0x80 ≤ v ∧ v < 0x800 ∨ 0x800 ≤ v ∧ v < 0x10000 ∨ 0x10000 ≤ v)
    with hv | hv | hv | hv
  · have hl : (UInt8.ofNat v).toNat = v := toNat_byte (by omega)
    refine ⟨_, _, by rw [encodeChar_one hv]; rfl, ?_⟩
    have h1 := @Form.one (UInt8.ofNat v) rest (by omega)
    rwa [hl] at h1
  · have hl : (UInt8.ofNat (v / 64 + 0xC0)).toNat = v / 64 + 0xC0 := toNat_byte (by omega)
    have hb : (UInt8.ofNat (v % 64 + 0x80)).toNat = v % 64 + 0x80 := toNat_byte (by omega)
    refine ⟨_, _, by rw [encodeChar_two hv.1 hv.2]; rfl, ?_⟩
    have h2 := @Form.two (UInt8.ofNat (v / 64 + 0xC0)) (UInt8.ofNat (v % 64 + 0x80)) rest
      (by omega) (by omega) (by rw [follows_iff]; omega)
    rwa [payload, hl, hb, show (v / 64 + 0xC0) % 32 * 64 + (v % 64 + 0x80) % 64 = v by omega] at h2
  · have hl : (UInt8.ofNat (v / 4096 + 0xE0)).toNat = v / 4096 + 0xE0 := toNat_byte (by omega)
    have hb : (UInt8.ofNat (v / 64 % 64 + 0x80)).toNat = v / 64 % 64 + 0x80 := toNat_byte (by omega)
    have hc : (UInt8.ofNat (v % 64 + 0x80)).toNat = v % 64 + 0x80 := toNat_byte (by omega)
    refine ⟨_, _, by rw [encodeChar_three hv.1 hv.2 (by omega)]; rfl, ?_⟩
    have h3 := @Form.three (UInt8.ofNat (v / 4096 + 0xE0)) (UInt8.ofNat (v / 64 % 64 + 0x80))
      (UInt8.ofNat (v % 64 + 0x80)) rest
      (by omega) (by omega) (by rw [follows_iff]; omega) (by rw [isTail_iff]; omega)
    rwa [payload, payload, hl, hb, hc,
      show ((v / 4096 + 0xE0) % 16 * 64 + (v / 64 % 64 + 0x80) % 64) * 64 + (v % 64 + 0x80) % 64 = v
        by omega] at h3
  · have hl : (UInt8.ofNat (v / 262144 + 0xF0)).toNat = v / 262144 + 0xF0 := toNat_byte (by omega)
    have hb : (UInt8.ofNat (v / 4096 % 64 + 0x80)).toNat = v / 4096 % 64 + 0x80 :=
      toNat_byte (by omega)
    have hc : (UInt8.ofNat (v / 64 % 64 + 0x80)).toNat = v / 64 % 64 + 0x80 := toNat_byte (by omega)
    have hd : (UInt8.ofNat (v % 64 + 0x80)).toNat = v % 64 + 0x80 := toNat_byte (by omega)
    refine ⟨_, _, by rw [encodeChar_four hv (by omega)]; rfl, ?_⟩
    have h4 := @Form.four (UInt8.ofNat (v / 262144 + 0xF0)) (UInt8.ofNat (v / 4096 % 64 + 0x80))
      (UInt8.ofNat (v / 64 % 64 + 0x80)) (UInt8.ofNat (v % 64 + 0x80)) rest (by omega) (by omega)
      (by rw [follows_iff]; omega) (by rw [isTail_iff]; omega) (by rw [isTail_iff]; omega)
    rwa [payload, payload, payload, hl, hb, hc, hd,
      show (((v / 262144 + 0xF0) % 8 * 64 + (v / 4096 % 64 + 0x80) % 64) * 64 +
        (v / 64 % 64 + 0x80) % 64) * 64 + (v % 64 + 0x80) % 64 = v by omega] at h4

-- ---------------------------------------------------------------------------
-- Texts
-- ---------------------------------------------------------------------------

theorem items_encodeChar (c : Char) (rest : Bytes) :
    items (String.utf8EncodeChar c ++ rest) = some c :: items rest := by
  have hc : Char.ofNat c.val.toNat = c := Char.ofNat_toNat c
  obtain ⟨lead, bytes, hb, h⟩ := form_encodeChar (v := c.val.toNat) c.valid rest
  rw [hc] at hb
  rw [hb, items, h.item, hc]

theorem items_encode (text : List Char) : items (encode text) = text.map some := by
  induction text with
  | nil => simp [encode, items]
  | cons c text ih =>
    rw [encode, List.flatMap_cons, items_encodeChar, ← encode, ih]
    rfl

theorem Form.not_isTail (h : Form lead bytes v rest) : isTail lead = false := by
  rw [← Bool.not_eq_true, isTail_iff]
  cases h <;> omega

theorem not_isTail_encodeChar (c : Char) :
    ∃ lead bytes, String.utf8EncodeChar c = lead :: bytes ∧ isTail lead = false := by
  obtain ⟨lead, bytes, hb, h⟩ := form_encodeChar (v := c.val.toNat) c.valid []
  rw [List.append_nil, show Char.ofNat c.val.toNat = c from Char.ofNat_toNat c] at hb
  exact ⟨lead, bytes, hb, h.not_isTail⟩

/-- A byte that continues nothing ends the item before it. -/
theorem item_append (h : isTail b = false) (lead : UInt8) (rest more : Bytes) :
    item lead (rest ++ b :: more) = ((item lead rest).1, (item lead rest).2 ++ b :: more) := by
  have hf : follows lead b = false := by
    rw [← Bool.not_eq_true, follows_iff]
    rw [← Bool.not_eq_true, isTail_iff] at h
    omega
  unfold item
  split
  · rfl
  split
  case isFalse => rfl
  cases rest with
  | nil => simp [hf]
  | cons second rest =>
    simp only [List.cons_append]
    split
    · rfl
    split
    · rfl
    cases rest with
    | nil => simp [h]
    | cons third rest =>
      simp only [List.cons_append]
      split
      · rfl
      split
      · rfl
      cases rest with
      | nil => simp [h]
      | cons fourth rest =>
        simp only [List.cons_append]
        split <;> rfl

theorem items_append (h : isTail b = false) (bytes more : Bytes) :
    items (bytes ++ b :: more) = items bytes ++ items (b :: more) := by
  induction bytes using items.induct with
  | case1 => simp [items]
  | case2 lead rest ih =>
    have hitem := item_append h lead rest more
    rw [List.cons_append, items, hitem, ih, items.eq_2 lead rest, List.cons_append]

theorem items_append_encode (bytes : Bytes) (text : List Char) :
    items (bytes ++ encode text) = items bytes ++ text.map some := by
  cases text with
  | nil => simp [encode]
  | cons c text =>
    obtain ⟨lead, first, hc, hl⟩ := not_isTail_encodeChar c
    have hwritten : encode (c :: text) = lead :: (first ++ encode text) := by
      rw [encode, List.flatMap_cons, hc]
      rfl
    rw [hwritten, items_append hl, ← hwritten, items_encode]

theorem toList_decodeLossy_append (bytes : Bytes) (text : List Char) :
    (decodeLossy (bytes ++ encode text)).toList = (decodeLossy bytes).toList ++ text := by
  simp only [decodeLossy, items_append_encode, String.toList_ofList, List.map_append, List.map_map]
  congr 1
  exact List.map_id' text

theorem eq_encode_of_items (h : items bytes = text.map some) : bytes = encode text := by
  induction text generalizing bytes with
  | nil =>
    cases bytes with
    | nil => rfl
    | cons lead rest => simp [items] at h
  | cons c text ih =>
    cases bytes with
    | nil => simp [items] at h
    | cons lead rest =>
      rw [items, List.map_cons, List.cons.injEq] at h
      obtain ⟨v, rfl, hv⟩ := form_of_item (Prod.ext h.1 rfl : item lead rest = (some c, _))
      rw [hv.encodeChar, encode, List.flatMap_cons, ← encode]
      exact congrArg _ (ih h.2)

theorem mapM_id_eq_some_iff (list : List (Option α)) (values : List α) :
    list.mapM id = some values ↔ list = values.map some := by
  induction list generalizing values with
  | nil => cases values <;> simp
  | cons item list ih =>
    cases item with
    | none => cases values <;> simp
    | some a =>
      cases hl : list.mapM id with
      | none =>
        have hn : ∀ values : List α, list ≠ values.map some := by simpa [hl] using ih
        cases values <;> simp [hl, hn]
      | some others =>
        have ho : list = others.map some := (ih others).mp hl
        subst ho
        cases values with
        | nil => simp [hl]
        | cons b values => simp [hl, List.map_inj_right]

/-- Strict reading takes what is written and nothing else. -/
theorem decode?_eq_some_iff : decode? bytes = some text ↔ bytes = ofString text := by
  rw [decode?, Option.map_eq_some_iff]
  constructor
  · rintro ⟨values, h, rfl⟩
    rw [ofString, String.toList_ofList]
    exact eq_encode_of_items ((mapM_id_eq_some_iff _ _).mp h)
  · rintro rfl
    exact ⟨text.toList, (mapM_id_eq_some_iff _ _).mpr (items_encode _), String.ofList_toList⟩

theorem ofString_injective (h : ofString a = ofString b) : a = b := by
  have ha := decode?_eq_some_iff.mpr (rfl : ofString a = ofString a)
  rw [decode?_eq_some_iff.mpr h] at ha
  exact (Option.some.inj ha).symm

/-- What is counted is what is written. -/
theorem length_encode (text : List Char) : (encode text).length = size text := by
  induction text with
  | nil => rfl
  | cons c text ih =>
    have hcons : encode (c :: text) = String.utf8EncodeChar c ++ encode text := List.flatMap_cons
    rw [hcons, List.length_append, String.length_utf8EncodeChar, ih]
    rfl

end ManifestNotice.Utf8
