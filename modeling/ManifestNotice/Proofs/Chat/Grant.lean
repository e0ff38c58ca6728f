import ManifestNotice.Proofs.Chat.Steps
import ManifestNotice.Proofs.Json.Members
import ManifestNotice.Proofs.Json.Writing

/-!
# Grants, read

Which values grant a token, and for how long (`Grants`). An exchange whose reply
says that it went well succeeds with what the body grants, however that is
written, and fails for all other bodies (`requestToken_grants`).
-/

namespace ManifestNotice.Chat

open Json.Grammar

-- ---------------------------------------------------------------------------
-- Values that grant
-- ---------------------------------------------------------------------------

/-- An object may have other members, an array has no other items. -/
inductive Grants : Json → Grant → Prop
  | object {members token lifetime} : valuesOf "access_token" members = [.string token] →
      Given IsNatural (valuesOf "expires_in" members) lifetime →
      Grants (.object members) ⟨String.ofList token, lifetime⟩
  | array {token values lifetime} : Given IsNatural values lifetime →
      Grants (.array (.string token :: values)) ⟨String.ofList token, lifetime⟩

namespace Grant

-- ---------------------------------------------------------------------------
-- The record
-- ---------------------------------------------------------------------------

def tokenSlot : Slot Draft where
  name := "access_token"
  Value := List Char
  get := Draft.token
  put draft token := { draft with token := some token }
  read := Json.readText
  decode := textOf?
  decodes := readText_decodes
  get_put _ _ := rfl

def lifetimeSlot : Slot Draft where
  name := "expires_in"
  Value := Option Nat
  get := Draft.lifetime
  put draft lifetime := { draft with lifetime := some lifetime }
  read := Json.readOptional Json.readNatural
  decode := optionalOf? naturalOf?
  decodes := readOptional_decodes readNatural_decodes
  get_put _ _ := rfl

def slots : List (Slot Draft) := [tokenSlot, lifetimeSlot]

theorem record_fields : record.fields = slots.map Slot.field := rfl

theorem slots_composed : Composed slots := by
  refine .pair (by decide) (fun _ _ => rfl) (fun _ _ => rfl) ?_
  rintro ⟨token, lifetime⟩ ⟨other, another⟩ htoken hlifetime
  cases htoken
  cases hlifetime
  rfl

theorem missing?_eq (draft : Draft) :
    record.missing? draft = if draft.token.isSome then none else some "access_token" := by
  rcases draft with ⟨- | token, lifetime⟩ <;> rfl

def ofDraft (draft : Draft) : Grant :=
  ⟨String.ofList (draft.token.getD []), draft.lifetime.join⟩

theorem lifetime_iff {lifetime : Option Nat} : Given IsNatural values lifetime ↔
    ∃ held, fill? (optionalOf? naturalOf?) none values = some held ∧ held.join = lifetime :=
  given_iff naturalOf?_eq_some_iff rfl

theorem ofObject_iff : ofJson? record slots (.object members) = some draft ↔
    fill? textOf? none (valuesOf "access_token" members) = some draft.token ∧
      fill? (optionalOf? naturalOf?) none (valuesOf "expires_in" members) = some draft.lifetime ∧
      draft.token.isSome := by
  rw [slots_composed.ofJson?_object_iff, missing?_eq, slots, List.forall_mem_cons,
    List.forall_mem_singleton, and_assoc]
  refine and_congr_right fun _ => and_congr_right fun _ => ?_
  cases draft.token.isSome <;> simp

theorem grants_object : Grants (.object members) grant ↔
    ∃ draft, ofJson? record slots (.object members) = some draft ∧ ofDraft draft = grant := by
  simp only [ofObject_iff]
  constructor
  · rintro ⟨htoken, hgiven⟩
    obtain ⟨held, hheld, rfl⟩ := lifetime_iff.mp hgiven
    rw [htoken]
    exact ⟨⟨some _, held⟩, ⟨rfl, hheld, rfl⟩, rfl⟩
  · rintro ⟨⟨held, lifetime⟩, ⟨htoken, hlifetime, hsome⟩, rfl⟩
    obtain ⟨token, rfl⟩ := Option.isSome_iff_exists.mp hsome
    rcases fill?_none_eq_some_iff.mp htoken with ⟨-, hnone⟩ | ⟨v, text, hvalues, hv, htext⟩
    · cases hnone
    · cases htext
      rw [textOf?_eq_some_iff.mp hv] at hvalues
      exact .object hvalues (lifetime_iff.mpr ⟨lifetime, hlifetime, rfl⟩)

theorem ofArray_iff : ofJson? record slots (.array items) = some draft ↔
    ∃ token values, items = .string token :: values ∧ draft.token = some token ∧
      fill? (optionalOf? naturalOf?) none values = some draft.lifetime := by
  rcases items with - | ⟨item, values⟩
  · exact ⟨nofun, nofun⟩
  · have hitems : ofJson? record slots (.array (item :: values)) = (textOf? item).bind fun token =>
        ofItems? 1 1 [lifetimeSlot] { token := some token } values := rfl
    simp only [hitems, Option.bind_eq_some_iff, textOf?_eq_some_iff, ofItems?_singleton_iff,
      fill?_none_eq_some_iff]
    constructor
    · rintro ⟨token, rfl, ⟨rfl, -, rfl⟩ | ⟨v, lifetime, rfl, hv, rfl⟩⟩
      · exact ⟨token, [], rfl, rfl, .inl ⟨rfl, rfl⟩⟩
      · exact ⟨token, [v], rfl, rfl, .inr ⟨v, lifetime, rfl, hv, rfl⟩⟩
    · obtain ⟨held, lifetime⟩ := draft
      rintro ⟨token, _, ⟨⟩, rfl, ⟨rfl, rfl⟩ | ⟨v, lifetime, rfl, hv, rfl⟩⟩
      · exact ⟨token, rfl, .inl ⟨rfl, Nat.le_refl 1, rfl⟩⟩
      · exact ⟨token, rfl, .inr ⟨v, lifetime, rfl, hv, rfl⟩⟩

theorem grants_array : Grants (.array items) grant ↔
    ∃ draft, ofJson? record slots (.array items) = some draft ∧ ofDraft draft = grant := by
  simp only [ofArray_iff]
  constructor
  · rintro (_ | hgiven)
    obtain ⟨held, hheld, rfl⟩ := lifetime_iff.mp hgiven
    exact ⟨⟨some _, held⟩, ⟨_, _, rfl, rfl, hheld⟩, rfl⟩
  · rintro ⟨⟨_, lifetime⟩, ⟨token, values, rfl, rfl, hlifetime⟩, rfl⟩
    exact .array (lifetime_iff.mpr ⟨lifetime, hlifetime, rfl⟩)

theorem grants_iff : Grants v grant ↔
    ∃ draft, ofJson? record slots v = some draft ∧ ofDraft draft = grant := by
  cases v with
  | object members => exact grants_object
  | array items => exact grants_array
  | _ => exact ⟨nofun, nofun⟩

theorem ofText_eq_ok_iff (h : IsText v text) : ofText text = .ok grant ↔ Grants v grant := by
  rw [grants_iff, ← ofText_of_isText record_fields h, ofText, map_eq_ok_iff]
  cases record.ofText text <;> simp [Except.toOption, ofDraft]

theorem isJson_of_ofText (h : ofText text = .ok grant) : IsJson text := by
  obtain ⟨draft, hdraft, -⟩ := map_eq_ok_iff.mp h
  exact Json.Grammar.isJson_of_ofText record_fields hdraft

end Grant

-- ---------------------------------------------------------------------------
-- Exchanges
-- ---------------------------------------------------------------------------

/-- A failure that says that the body is not as it should be. -/
def Malformed {α : Type} (result : Except Fault α) : Prop :=
  ∃ details, result = .error (.auth ("malformed token response: " ++ details))

theorem grantOf_eq {reply : Http.Reply} (hs : reply.isSuccess) (hbody : reply.text? = some body) :
    grantOf reply = (Grant.ofText body.toList).mapError fun fault =>
      .auth ("malformed token response: " ++ fault.message body.toList) := by
  rw [grantOf, hbody]
  dsimp only
  rw [if_pos hs]
  cases Grant.ofText body.toList <;> rfl

theorem grantOf_malformed {reply : Http.Reply} (hs : reply.isSuccess)
    (hbody : reply.text? = some body) (h : ∀ grant, Grant.ofText body.toList ≠ .ok grant) :
    Malformed (grantOf reply) := by
  rw [grantOf_eq hs hbody]
  cases hread : Grant.ofText body.toList with
  | ok grant => exact absurd hread (h grant)
  | error fault => exact ⟨_, rfl⟩

namespace Client

theorem requestToken_of_reply {client : Client} {session : Session} {reply : Http.Reply}
    (h : (client.asked (tokenRequest client.credentials) session.backend).1 = .ok reply) :
    (client.requestToken.run.run session).1 = (grantOf reply).map fun grant =>
      ⟨grant.token, Token.expiryAt
        (client.asked (tokenRequest client.credentials) session.backend).2.clock grant.lifetime⟩ := by
  rw [requestToken_run, exchanged]
  dsimp only
  rw [h]
  rfl

/-- What a reply grants that says that all is well depends on the value of its
body only. A body that grants nothing, or is not JSON, is a failure. -/
theorem requestToken_grants {client : Client} {session : Session} {reply : Http.Reply}
    {body : String}
    (h : (client.asked (tokenRequest client.credentials) session.backend).1 = .ok reply)
    (hs : reply.isSuccess) (hbody : reply.text? = some body) :
    (∀ value, IsText value body.toList →
      (∀ grant, Grants value grant → grantOf reply = .ok grant ∧
        (client.requestToken.run.run session).1 = .ok ⟨grant.token, Token.expiryAt
          (client.asked (tokenRequest client.credentials) session.backend).2.clock
          grant.lifetime⟩) ∧
      ((∀ grant, ¬ Grants value grant) → Malformed (client.requestToken.run.run session).1)) ∧
    (¬ IsJson body.toList → Malformed (client.requestToken.run.run session).1) := by
  have hmalformed (hnone : ∀ grant, Grant.ofText body.toList ≠ .ok grant) :
      Malformed (client.requestToken.run.run session).1 := by
    obtain ⟨details, hfault⟩ := grantOf_malformed hs hbody hnone
    rw [requestToken_of_reply h, hfault]
    exact ⟨details, rfl⟩
  refine ⟨fun value hv => ⟨fun grant hg => ?_, fun hg => ?_⟩, fun hj => ?_⟩
  · have hgrant : grantOf reply = .ok grant := by
      rw [grantOf_eq hs hbody, (Grant.ofText_eq_ok_iff hv).mpr hg]
      rfl
    rw [requestToken_of_reply h, hgrant]
    exact ⟨rfl, rfl⟩
  · exact hmalformed fun grant hread => hg grant ((Grant.ofText_eq_ok_iff hv).mp hread)
  · exact hmalformed fun grant hread => hj (Grant.isJson_of_ofText hread)

/-- A token may have characters that are escaped in the body. -/
theorem grants_token_with_quote :
    let client : Client := ⟨⟨"id", "secret", "http://h"⟩, fun _ => .answered⟩
    let value : Json := .object [("access_token".toList, .string "t\"".toList),
      ("expires_in".toList, .number { whole := ['6', '0'] })]
    let backend : Http.Backend :=
      { script := [{ status := 200, body := Utf8.encode value.write }], clock := 1000 }
    (client.requestToken.run.run { backend }).1 = .ok ⟨"t\"", 1060⟩ := by
  intro client value backend
  have hnumber : Written (.number { whole := ['6', '0'] }) := fun rest =>
    .number ⟨.digits rfl (by decide) (List.forall_mem_singleton.mpr rfl), [], [], .none, .none, rfl⟩
  have hvalue : Written value := by
    refine written_object ?_
    rw [List.forall_mem_cons, List.forall_mem_singleton]
    exact ⟨written_string _, hnumber⟩
  have hgiven : Given IsNatural [.number { whole := ['6', '0'] }] (some 60) :=
    .value (.intro (by decide))
  have hgrants : Grants value ⟨"t\"", some 60⟩ := .object (by simp [valuesOf]) (by
    simpa [valuesOf] using hgiven)
  let session : Session := { backend }
  let reply : Http.Reply := { status := 200, body := Utf8.encode value.write }
  have hasked : (client.asked (tokenRequest client.credentials) session.backend).1 = .ok reply := by
    decide +kernel
  have hbody : reply.text? = some (String.ofList value.write) := by decide +kernel
  have htext : IsText value (String.ofList value.write).toList := by
    rw [String.toList_ofList]
    exact hvalue.isText
  obtain ⟨hvalues, -⟩ := requestToken_grants hasked rfl hbody
  exact ((hvalues value htext).1 _ hgrants).2.trans (by decide +kernel)

end Client

end ManifestNotice.Chat
