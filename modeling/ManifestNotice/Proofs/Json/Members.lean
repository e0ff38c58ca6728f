import Mathlib.Data.List.Nodup
import ManifestNotice.Proofs.Json.Record

/-!
# Members of a record

Among the members of an object a slot sees those of its name, in their order. It
is filled once at most, so all members are taken exactly if each slot can take
what it sees (`foldlM_ofMember?_iff`).
-/

namespace ManifestNotice.Json.Grammar

variable {σ α : Type} {slots : List (Slot σ)} {slot : Slot σ} {state next final : σ}
  {m : List Char × Json} {members : List (List Char × Json)} {decode : Json → Option α}

def valuesOf (name : String) (members : List (List Char × Json)) : List Json :=
  (members.filter (·.1 == name.toList)).map (·.2)

/-- What a slot holds once it has seen some values: a full one takes no other. -/
def fill? (decode : Json → Option α) : Option α → List Json → Option (Option α)
  | held, [] => some held
  | some _, _ :: _ => none
  | none, v :: values => (decode v).bind fun a => fill? decode (some a) values

/-- States are made up of what their slots hold. -/
structure Composed (slots : List (Slot σ)) : Prop where
  names : (slots.map Slot.name).Nodup
  frame {one other state value} : one ∈ slots → other ∈ slots → one.name ≠ other.name →
    other.get (one.put state value) = other.get state
  ext {a b} : (∀ slot ∈ slots, slot.get a = slot.get b) → a = b

theorem fill?_none_eq_some_iff : fill? decode none values = some held ↔
    (values = [] ∧ held = none) ∨ ∃ v a, values = [v] ∧ decode v = some a ∧ held = some a := by
  rcases values with - | ⟨v, - | ⟨w, values⟩⟩
  · simp [fill?, eq_comm]
  · simp only [fill?, Option.bind_eq_some_iff, Option.some.injEq, List.cons.injEq, and_true]
    simp [eq_comm]
  · simp [fill?]

theorem fill?_singleton_iff : fill? decode none [v] = some held ↔
    ∃ a, decode v = some a ∧ some a = held := by
  simp [fill?, Option.bind_eq_some_iff]

theorem valuesOf_cons_of_eq (h : m.1 = slot.name.toList) :
    valuesOf slot.name (m :: members) = m.2 :: valuesOf slot.name members := by
  simp [valuesOf, h]

theorem valuesOf_cons_of_ne (h : m.1 ≠ slot.name.toList) :
    valuesOf slot.name (m :: members) = valuesOf slot.name members := by
  simp [valuesOf, h]

theorem slot?_eq_some (h : slot? slots key = some slot) :
    slot ∈ slots ∧ key = slot.name.toList := by
  have hname := List.find?_some h
  rw [beq_iff_eq] at hname
  rw [hname, String.toList_ofList]
  exact ⟨List.mem_of_find?_eq_some h, rfl⟩

theorem Composed.slot?_eq (hc : Composed slots) (hs : slot ∈ slots) :
    slot? slots slot.name.toList = some slot := by
  cases hfound : slot? slots slot.name.toList with
  | none =>
    have := List.find?_eq_none.mp hfound slot hs
    rw [String.ofList_toList] at this
    exact absurd (beq_self_eq_true _) this
  | some other =>
    obtain ⟨hother, hname⟩ := slot?_eq_some hfound
    exact congrArg some
      (List.inj_on_of_nodup_map hc.names hother hs (String.toList_inj.mp hname).symm)

/-- What an optional field comes to by its values: there is none, or null, or one
that is something. -/
inductive Given (is : Json → α → Prop) : List Json → Option α → Prop
  | missing : Given is [] none
  | null : Given is [.null] none
  | value {v a} : is v a → Given is [v] (some a)

theorem given_iff {is : Json → α → Prop} {given : Option α}
    (hdecode : ∀ {v a}, decode v = some a ↔ is v a) (hnull : decode .null = none) :
    Given is values given ↔
      ∃ held, fill? (optionalOf? decode) none values = some held ∧ held.join = given := by
  simp only [fill?_none_eq_some_iff, optionalOf?_eq_some_iff hnull]
  constructor
  · rintro (_ | _ | h)
    · exact ⟨none, .inl ⟨rfl, rfl⟩, rfl⟩
    · exact ⟨some none, .inr ⟨_, _, rfl, .inl ⟨rfl, rfl⟩, rfl⟩, rfl⟩
    · exact ⟨some (some _), .inr ⟨_, _, rfl, .inr ⟨_, hdecode.mpr h, rfl⟩, rfl⟩, rfl⟩
  · rintro ⟨held, ⟨rfl, rfl⟩ | ⟨v, _, rfl, ⟨rfl, rfl⟩ | ⟨a, ha, rfl⟩, rfl⟩, rfl⟩
    · exact .missing
    · exact .null
    · exact .value (hdecode.mp ha)

-- ---------------------------------------------------------------------------
-- One member
-- ---------------------------------------------------------------------------

/-- A member that is taken is gone from what the slots see. -/
theorem Composed.fill?_step (hc : Composed slots) (h : ofMember? slots state m = some next)
    (hs : slot ∈ slots) :
    fill? slot.decode (slot.get state) (valuesOf slot.name (m :: members)) =
      fill? slot.decode (slot.get next) (valuesOf slot.name members) := by
  rw [ofMember?] at h
  by_cases hname : m.1 = slot.name.toList
  · rw [hname, hc.slot?_eq hs] at h
    rw [valuesOf_cons_of_eq hname]
    dsimp only at h
    split at h
    · cases h
    · next hempty =>
      obtain ⟨value, hvalue, rfl⟩ := Option.map_eq_some_iff.mp h
      rw [Option.not_isSome_iff_eq_none.mp hempty, slot.get_put, fill?, hvalue]
      rfl
  · rw [valuesOf_cons_of_ne hname]
    split at h
    · cases h
      rfl
    · next other hfound =>
      obtain ⟨hother, hkey⟩ := slot?_eq_some hfound
      split at h
      · cases h
      · obtain ⟨value, -, rfl⟩ := Option.map_eq_some_iff.mp h
        have hne : other.name ≠ slot.name := fun heq => hname (heq ▸ hkey)
        rw [hc.frame hother hs hne]

/-- A member that is not taken stops the slot of its name. -/
theorem fill?_stuck (members : List (List Char × Json)) (h : ofMember? slots state m = none) :
    ∃ slot ∈ slots, fill? slot.decode (slot.get state) (valuesOf slot.name (m :: members)) = none := by
  rw [ofMember?] at h
  split at h
  · cases h
  · next slot hfound =>
    obtain ⟨hs, hkey⟩ := slot?_eq_some hfound
    refine ⟨slot, hs, ?_⟩
    rw [valuesOf_cons_of_eq hkey]
    cases hheld : slot.get state with
    | some held => rfl
    | none =>
      rw [hheld] at h
      rw [fill?, Option.map_eq_none_iff.mp h]
      rfl

-- ---------------------------------------------------------------------------
-- All members
-- ---------------------------------------------------------------------------

theorem Composed.fill?_run (hc : Composed slots)
    (h : members.foldlM (ofMember? slots) state = some final) (hs : slot ∈ slots) :
    fill? slot.decode (slot.get state) (valuesOf slot.name members) = some (slot.get final) := by
  induction members generalizing state with
  | nil =>
    cases h
    rfl
  | cons m members ih =>
    rw [List.foldlM_cons] at h
    obtain ⟨next, hnext, h⟩ := Option.bind_eq_some_iff.mp h
    rw [hc.fill?_step hnext hs]
    exact ih h

theorem Composed.exists_run (hc : Composed slots)
    (h : ∀ slot ∈ slots, fill? slot.decode (slot.get state) (valuesOf slot.name members) ≠ none) :
    ∃ final, members.foldlM (ofMember? slots) state = some final := by
  induction members generalizing state with
  | nil => exact ⟨state, rfl⟩
  | cons m members ih =>
    rw [List.foldlM_cons]
    cases hnext : ofMember? slots state m with
    | none =>
      obtain ⟨slot, hs, hstuck⟩ := fill?_stuck members hnext
      exact absurd hstuck (h slot hs)
    | some next =>
      refine ih fun slot hs => ?_
      rw [← hc.fill?_step hnext hs]
      exact h slot hs

theorem Composed.foldlM_ofMember?_iff (hc : Composed slots) :
    members.foldlM (ofMember? slots) state = some final ↔
      ∀ slot ∈ slots, fill? slot.decode (slot.get state) (valuesOf slot.name members) =
        some (slot.get final) := by
  constructor
  · exact fun h slot hs => hc.fill?_run h hs
  · intro h
    obtain ⟨other, hother⟩ := hc.exists_run fun slot hs hnone => by
      rw [h slot hs] at hnone
      cases hnone
    rw [hother]
    refine congrArg some (hc.ext fun slot hs => ?_)
    exact Option.some.inj ((hc.fill?_run hother hs).symm.trans (h slot hs))

theorem complete?_eq_some_iff {record : Record σ} : complete? record state = some final ↔
    state = final ∧ record.missing? state = none := by
  rw [complete?]
  cases record.missing? state <;> simp

/-- An object is taken as what its members leave in the slots. -/
theorem Composed.ofJson?_object_iff (hc : Composed slots) {record : Record σ} :
    ofJson? record slots (.object members) = some final ↔
      (∀ slot ∈ slots, fill? slot.decode (slot.get record.start) (valuesOf slot.name members) =
        some (slot.get final)) ∧ record.missing? final = none := by
  rw [ofJson?, Option.bind_eq_some_iff, ← hc.foldlM_ofMember?_iff]
  simp only [complete?_eq_some_iff]
  constructor
  · rintro ⟨_, h, rfl, hmissing⟩
    exact ⟨h, hmissing⟩
  · rintro ⟨h, hmissing⟩
    exact ⟨final, h, rfl, hmissing⟩

theorem ofItems?_singleton_iff {least index : Nat} :
    ofItems? least index [slot] state items = some final ↔
      (items = [] ∧ least ≤ index ∧ final = state) ∨
        ∃ v value, items = [v] ∧ slot.decode v = some value ∧ final = slot.put state value := by
  rcases items with - | ⟨v, - | ⟨w, items⟩⟩
  · simp [ofItems?, eq_comm]
  · simp [ofItems?, Option.bind_eq_some_iff, eq_comm (a := final)]
  · simp [ofItems?]

theorem Composed.pair {one other : Slot σ} (hname : one.name ≠ other.name)
    (hone : ∀ state value, other.get (one.put state value) = other.get state)
    (hother : ∀ state value, one.get (other.put state value) = one.get state)
    (hext : ∀ a b, one.get a = one.get b → other.get a = other.get b → a = b) :
    Composed [one, other] where
  names := by simpa using hname
  frame ha hb hne := by
    rw [List.mem_pair] at ha hb
    rcases ha with rfl | rfl <;> rcases hb with rfl | rfl
    · exact absurd rfl hne
    · exact hone _ _
    · exact hother _ _
    · exact absurd rfl hne
  ext h := hext _ _ (h one (by simp)) (h other (by simp))

end ManifestNotice.Json.Grammar
