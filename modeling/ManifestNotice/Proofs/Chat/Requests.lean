import ManifestNotice.Chat.Client
import ManifestNotice.Proofs.Text.Utf8

/-!
# Requests of a chat client

A client makes two kinds of requests. `messageRequest_eq_ok` and
`tokenRequest_eq_ok` say what is in them, `mem_bearer` which token a message
carries. No token request has the body of a message (`body_ne_payload`).
-/

namespace ManifestNotice.Chat

def tokenForm : Bytes := Utf8.ofString "grant_type=client_credentials&scope=**"

def payloadBody (channel text : String) : Bytes := Utf8.encode (payload channel text).write

-- ---------------------------------------------------------------------------
-- Shapes
-- ---------------------------------------------------------------------------

theorem messageRequest_eq_ok (h : messageRequest server token channel text = .ok request) :
    ∃ target : Http.Target,
      Http.Target.ofText (addressOf server messagePath) = .ok target ∧
      request = posting target (Http.bearer token) "application/json" "application/json"
        (payloadBody channel text) := by
  unfold messageRequest at h
  cases ht : Http.Target.ofText (addressOf server messagePath) with
  | error fault =>
    rw [ht] at h
    cases h
  | ok target =>
    rw [ht] at h
    refine ⟨target, rfl, ?_⟩
    cases hv : Http.isHeaderValue (Http.bearer token) with
    | false =>
      simp only [hv] at h
      cases h
    | true =>
      simp only [hv] at h
      cases h
      rfl

theorem tokenRequest_eq_ok (h : tokenRequest credentials = .ok request) :
    request.method = .post ∧ request.body = tokenForm := by
  unfold tokenRequest at h
  cases ht : Http.Target.ofText (addressOf credentials.serverUrl tokenPath) with
  | error fault =>
    rw [ht] at h
    cases h
  | ok target =>
    rw [ht] at h
    cases h
    exact ⟨rfl, rfl⟩

theorem messageRequest_method (h : messageRequest server token channel text = .ok request) :
    request.method = .post := by
  obtain ⟨target, -, rfl⟩ := messageRequest_eq_ok h
  rfl

theorem messageRequest_body (h : messageRequest server token channel text = .ok request) :
    request.body = payloadBody channel text := by
  obtain ⟨target, -, rfl⟩ := messageRequest_eq_ok h
  rfl

-- ---------------------------------------------------------------------------
-- Bodies
-- ---------------------------------------------------------------------------

theorem head?_payloadBody (channel text : String) :
    (payloadBody channel text).head? = some 0x7B := by
  have : (payload channel text).write =
      '\x7b' :: Json.writeMembers
        [("channel".toList, .string ("id:".toList ++ channel.toList)),
         ("content".toList, .object
           [("className".toList, .string "ChatMessage.Text".toList),
            ("text".toList, .string text.toList)])] := by
    rw [payload, Json.write]
  rw [payloadBody, this, Utf8.encode, List.flatMap_cons]
  rfl

theorem payloadBody_ne_nil (channel text : String) : payloadBody channel text ≠ [] := by
  intro h
  have := head?_payloadBody channel text
  rw [h] at this
  cases this

theorem body_ne_payload (h : tokenRequest credentials = .ok request) (channel text : String) :
    request.body ≠ payloadBody channel text := by
  intro hb
  have := head?_payloadBody channel text
  rw [← hb, (tokenRequest_eq_ok h).2] at this
  revert this
  decide

theorem messageRequest_ne (hm : messageRequest server token channel text = .ok message)
    (ht : tokenRequest credentials = .ok request) : message ≠ request := by
  rintro rfl
  exact body_ne_payload ht channel text (messageRequest_body hm)

-- ---------------------------------------------------------------------------
-- Authorization
-- ---------------------------------------------------------------------------

theorem bearer_injective (h : Http.bearer a = Http.bearer b) : a = b :=
  Utf8.ofString_injective (List.append_cancel_left h)

theorem bearer_ne_basic (token : String) (user password : Bytes) :
    Http.bearer token ≠ Http.basic user password := by
  intro h
  have := congrArg (·.take 2) h
  revert this
  simp only [Http.bearer, Http.basic]
  rw [List.take_append_of_le_length (by decide), List.take_append_of_le_length (by decide)]
  decide

/-- Names before the host of an address give no bearer. -/
theorem user_ne_bearer (h : Http.Target.ofText address = .ok target) (token : String) :
    (Http.authorization, Http.bearer token) ∉ target.user := by
  unfold Http.Target.ofText at h
  split at h
  · cases h
  · split at h
    · cases h
      unfold Http.Target.ofUrl
      split
      · simp [bearer_ne_basic]
      · exact List.not_mem_nil
    · cases h

theorem mem_bearer (h : messageRequest server token channel text = .ok request) :
    (Http.authorization, Http.bearer value) ∈ request.headers ↔ value = token := by
  obtain ⟨target, ht, rfl⟩ := messageRequest_eq_ok h
  have hu := user_ne_bearer ht value
  constructor
  · intro hm
    rcases List.mem_append.mp hm with hm | hm
    · exact absurd hm hu
    · rcases List.mem_cons.mp hm with hm | hm
      · exact bearer_injective (Prod.mk.inj hm).2
      · simp [Http.authorization] at hm
  · rintro rfl
    exact List.mem_append_right _ List.mem_cons_self

end ManifestNotice.Chat
