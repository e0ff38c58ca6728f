import ManifestNotice.Chat.Answer
import ManifestNotice.Proofs.Json.Members
import ManifestNotice.Proofs.Json.Writing

/-!
# Refusals, read

Which values explain a refusal (`Refuses`). A body that stands for one is put into
words by it, however it is written; all others are shown as they are, but for the
blanks around them (`explain_refusal`).
-/

namespace ManifestNotice.Chat.Refusal

open Json.Grammar

-- ---------------------------------------------------------------------------
-- Values that refuse
-- ---------------------------------------------------------------------------

def IsString (v : Json) (text : List Char) : Prop := v = .string text

/-- An error, and its description if there is one. An object may have other
members; an array has two items. -/
inductive Refuses : Json → List Char → Option (List Char) → Prop
  | object {members error description} : valuesOf "error" members = [.string error] →
      Given IsString (valuesOf "error_description" members) description →
      Refuses (.object members) error description
  | array {error item description} : Given IsString [item] description →
      Refuses (.array [.string error, item]) error description

-- ---------------------------------------------------------------------------
-- The record
-- ---------------------------------------------------------------------------

def errorSlot : Slot Draft where
  name := "error"
  Value := Option (List Char)
  get := Draft.error
  put draft error := { draft with error := some error }
  read := Json.readOptional Json.readText
  decode := optionalOf? textOf?
  decodes := readOptional_decodes readText_decodes
  get_put _ _ := rfl

def descriptionSlot : Slot Draft where
  name := "error_description"
  Value := Option (List Char)
  get := Draft.description
  put draft description := { draft with description := some description }
  read := Json.readOptional Json.readText
  decode := optionalOf? textOf?
  decodes := readOptional_decodes readText_decodes
  get_put _ _ := rfl

def slots : List (Slot Draft) := [errorSlot, descriptionSlot]

theorem record_fields : record.fields = slots.map Slot.field := rfl

theorem slots_composed : Composed slots := by
  refine .pair (by decide) (fun _ _ => rfl) (fun _ _ => rfl) ?_
  rintro ⟨error, description⟩ ⟨other, another⟩ herror hdescription
  cases herror
  cases hdescription
  rfl

theorem missing?_eq (draft : Draft) : record.missing? draft = none := rfl

theorem string_iff {given : Option (List Char)} : Given IsString values given ↔
    ∃ held, fill? (optionalOf? textOf?) none values = some held ∧ held.join = given :=
  given_iff textOf?_eq_some_iff rfl

theorem given_some_iff : Given IsString values (some error) ↔ values = [.string error] := by
  constructor
  · rintro (_ | _ | h)
    exact congrArg ([·]) h
  · rintro rfl
    exact .value rfl

theorem ofObject_iff : ofJson? record slots (.object members) = some draft ↔
    fill? (optionalOf? textOf?) none (valuesOf "error" members) = some draft.error ∧
      fill? (optionalOf? textOf?) none (valuesOf "error_description" members) =
        some draft.description := by
  rw [slots_composed.ofJson?_object_iff, missing?_eq, slots, List.forall_mem_cons,
    List.forall_mem_singleton]
  exact and_iff_left rfl

theorem refuses_object : Refuses (.object members) error description ↔
    ∃ draft, ofJson? record slots (.object members) = some draft ∧
      draft.error.join = some error ∧ draft.description.join = description := by
  simp only [ofObject_iff]
  constructor
  · rintro ⟨herror, hdescription⟩
    obtain ⟨first, hfirst, hjoin⟩ := string_iff.mp (given_some_iff.mpr herror)
    obtain ⟨second, hsecond, rfl⟩ := string_iff.mp hdescription
    exact ⟨⟨first, second⟩, ⟨hfirst, hsecond⟩, hjoin, rfl⟩
  · rintro ⟨⟨first, second⟩, ⟨hfirst, hsecond⟩, hjoin, rfl⟩
    exact .object (given_some_iff.mp (string_iff.mpr ⟨first, hfirst, hjoin⟩))
      (string_iff.mpr ⟨second, hsecond, rfl⟩)

theorem ofArray_iff : ofJson? record slots (.array items) = some draft ↔
    ∃ v w, items = [v, w] ∧ fill? (optionalOf? textOf?) none [v] = some draft.error ∧
      fill? (optionalOf? textOf?) none [w] = some draft.description := by
  rcases items with - | ⟨item, values⟩
  · exact ⟨nofun, nofun⟩
  · have hitems : ofJson? record slots (.array (item :: values)) =
        (optionalOf? textOf? item).bind fun error =>
          ofItems? 2 1 [descriptionSlot] { error := some error } values := rfl
    simp only [hitems, Option.bind_eq_some_iff, ofItems?_singleton_iff, fill?_singleton_iff]
    constructor
    · rintro ⟨first, hfirst, ⟨-, hleast, -⟩ | ⟨w, second, rfl, hsecond, rfl⟩⟩
      · exact absurd hleast (by decide)
      · exact ⟨item, w, rfl, ⟨first, hfirst, rfl⟩, ⟨second, hsecond, rfl⟩⟩
    · obtain ⟨held, description⟩ := draft
      rintro ⟨v, w, ⟨⟩, ⟨first, hfirst, rfl⟩, ⟨second, hsecond, rfl⟩⟩
      exact ⟨first, hfirst, .inr ⟨w, second, rfl, hsecond, rfl⟩⟩

theorem refuses_array : Refuses (.array items) error description ↔
    ∃ draft, ofJson? record slots (.array items) = some draft ∧
      draft.error.join = some error ∧ draft.description.join = description := by
  simp only [ofArray_iff]
  constructor
  · rintro (_ | hdescription)
    have herror : Given IsString [.string error] (some error) := .value rfl
    obtain ⟨first, hfirst, hjoin⟩ := string_iff.mp herror
    obtain ⟨second, hsecond, rfl⟩ := string_iff.mp hdescription
    exact ⟨⟨first, second⟩, ⟨_, _, rfl, hfirst, hsecond⟩, hjoin, rfl⟩
  · rintro ⟨⟨first, second⟩, ⟨v, w, rfl, hfirst, hsecond⟩, hjoin, rfl⟩
    cases given_some_iff.mp (string_iff.mpr ⟨first, hfirst, hjoin⟩)
    exact .array (string_iff.mpr ⟨second, hsecond, rfl⟩)

theorem refuses_iff : Refuses v error description ↔
    ∃ draft, ofJson? record slots v = some draft ∧ draft.error.join = some error ∧
      draft.description.join = description := by
  cases v with
  | object members => exact refuses_object
  | array items => exact refuses_array
  | _ => exact ⟨nofun, nofun⟩

def wording (error : List Char) : Option (List Char) → String
  | some description => String.ofList error ++ ": " ++ String.ofList description
  | none => String.ofList error

theorem ofText?_eq_some_iff (h : IsText v text) :
    ofText? text = some (error, description) ↔ Refuses v error description := by
  rw [refuses_iff, ← ofText_of_isText record_fields h, ofText?]
  cases record.ofText text with
  | error fault => exact ⟨nofun, nofun⟩
  | ok draft =>
    simp only [Except.toOption, Option.map_eq_some_iff, Option.some.injEq, Prod.mk.injEq]
    constructor
    · rintro ⟨_, herror, rfl, rfl⟩
      exact ⟨draft, rfl, herror, rfl⟩
    · rintro ⟨_, rfl, herror, rfl⟩
      exact ⟨error, herror, rfl, rfl⟩

theorem isJson_of_ofText? (h : ofText? text = some found) : IsJson text := by
  unfold ofText? at h
  split at h
  · next hread => exact isJson_of_ofText record_fields hread
  · cases h

-- ---------------------------------------------------------------------------
-- Other bodies
-- ---------------------------------------------------------------------------

def Trimmed (body text : List Char) : Prop :=
  ∃ lead trail, body = lead ++ (text ++ trail) ∧ (∀ c ∈ lead ++ trail, Text.isBlank c) ∧
    (∀ c ∈ text.head?, Text.isBlank c = false) ∧ ∀ c ∈ text.getLast?, Text.isBlank c = false

theorem trimmed_trim (body : String) : Trimmed body.toList (Text.trim body).toList := by
  rw [Text.trim, String.toList_ofList]
  have hfront := leaves_dropWhile Text.isBlank body.toList
  have hsplit := List.takeWhile_append_dropWhile (p := Text.isBlank) (l := body.toList)
  have hlead : ∀ c ∈ body.toList.takeWhile Text.isBlank, Text.isBlank c := fun c hc =>
    List.mem_takeWhile_imp hc
  obtain ⟨trail, hkept, htrail⟩ :=
    Text.exists_dropEnd_append Text.isBlank (body.toList.dropWhile Text.isBlank)
  refine ⟨body.toList.takeWhile Text.isBlank, trail, ?_, List.forall_mem_append.mpr ⟨hlead, htrail⟩,
    fun c hc => hfront c ?_, fun c hc => Text.not_getLast_dropEnd hc⟩
  · rw [← hkept, hsplit]
  · rw [hkept]
    exact List.mem_head?_append_of_mem_head? hc

/-- A body with an error in it is put into words by that; of all others the text
without the blanks around it is shown, if there is any. -/
theorem explain_refusal (body : String) :
    (∀ value error description, IsText value body.toList → Refuses value error description →
      explain body = wording error description) ∧
    ((IsJson body.toList → ∃ value, IsText value body.toList ∧
        ∀ error description, ¬ Refuses value error description) →
      ∃ text, Trimmed body.toList text ∧
        explain body = if text = [] then "empty response body" else String.ofList text) := by
  constructor
  · intro value error description hv hr
    rw [explain, (ofText?_eq_some_iff hv).mpr hr]
    cases description <;> rfl
  · intro hj
    have hnone : ofText? body.toList = none := by
      cases hread : ofText? body.toList with
      | none => rfl
      | some found =>
        obtain ⟨value, hv, hother⟩ := hj (isJson_of_ofText? hread)
        exact absurd ((ofText?_eq_some_iff hv).mp hread) (hother _ _)
    refine ⟨_, trimmed_trim body, ?_⟩
    rw [explain, hnone, String.ofList_toList]
    simp only [String.isEmpty_iff, String.toList_eq_nil_iff]

/-- An error with its description, and a body that is no JSON. -/
theorem explains_gateway :
    let value : Json := .object [("error".toList, .string "rate".toList),
      ("error_description".toList, .string "slow".toList)]
    explain (String.ofList value.write) = "rate: slow" ∧
      ∃ text, Trimmed "Bad Gateway\n".toList text ∧ explain "Bad Gateway\n" =
        if text = [] then "empty response body" else String.ofList text := by
  intro value
  have hvalue : Written value := by
    refine written_object ?_
    rw [List.forall_mem_cons, List.forall_mem_singleton]
    exact ⟨written_string _, written_string _⟩
  have hrefuses : Refuses value "rate".toList (some "slow".toList) := by
    have hdescription : Given IsString [.string "slow".toList] (some "slow".toList) := .value rfl
    exact .object (by simp [valuesOf]) (by simpa [valuesOf] using hdescription)
  constructor
  · refine ((explain_refusal (String.ofList value.write)).1 value _ _ ?_ hrefuses).trans ?_
    · rw [String.toList_ofList]
      exact hvalue.isText
    · decide +kernel
  · refine (explain_refusal "Bad Gateway\n").2 ?_
    rintro ⟨start, rest, hs, hform, -⟩
    have hfront : (Json.skipBlanks "Bad Gateway\n".toList).head? = some 'B' := by decide +kernel
    rw [hform.skipBlanks_eq hs] at hfront
    obtain ⟨c, after, rfl, -⟩ := hform.value_head
    cases hfront
    cases hform with
    | number hn => exact absurd hn.head (by decide)

end ManifestNotice.Chat.Refusal
