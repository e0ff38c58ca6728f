import ManifestNotice.Proofs.Chat.Delivery

/-!
# Acceptance

A post succeeds by the last reply of its chain, whichever request that answers.
`Posted.accepted_iff` says when a request with the message itself was answered
so: if none of them was asked for less.
-/

namespace ManifestNotice

namespace Http

/-- The replies to requests that post the body. -/
def answersTo (body : Bytes) (arrived : List Receipt) : List Reply :=
  arrived.filterMap fun
    | .request request _ reply =>
      if request.method = .post ∧ request.body = body then some reply else none
    | .tunnel _ => none

theorem mem_answersTo : reply ∈ answersTo body arrived ↔
    ∃ request hop, Receipt.request request hop reply ∈ arrived ∧
      request.method = .post ∧ request.body = body := by
  unfold answersTo
  rw [List.mem_filterMap]
  constructor
  · rintro ⟨_ | ⟨request, hop, answer⟩, hm, h⟩
    · cases h
    · simp only [Option.ite_none_right_eq_some, Option.some.injEq] at h
      obtain ⟨h, rfl⟩ := h
      exact ⟨request, hop, hm, h⟩
  · rintro ⟨request, hop, hm, h⟩
    exact ⟨_, hm, by simp [h]⟩

theorem answersTo_append (body : Bytes) (first later : List Receipt) :
    answersTo body (first ++ later) = answersTo body first ++ answersTo body later :=
  List.filterMap_append ..

theorem answersTo_cons (hm : request.method = .post) (hb : request.body = body) :
    answersTo body (.request request hop reply :: rest) = reply :: answersTo body rest := by
  unfold answersTo
  rw [List.filterMap_cons]
  simp [hm, hb]

theorem asksForLess_of_isSuccess {reply : Reply} (h : reply.isSuccess) :
    reply.asksForLess = false := by
  have hs : 200 ≤ reply.status ∧ reply.status < 300 := by simpa [Reply.isSuccess] using h
  simp only [Reply.asksForLess, Bool.or_eq_false_iff, beq_eq_false_iff_ne]
  omega

/-- Where a chain that posts a body is answered with success, a request with the
body is, unless one of them was asked for less. -/
theorem Chain.accepted_iff {body : Bytes} (h : Chain hop request arrived)
    (hm : request.method = .post) (hb : request.body = body)
    (ha : answer? deadline clock arrived = some final) (hs : final.isSuccess) :
    (∃ reply ∈ answersTo body arrived, reply.isSuccess) ↔
      ∀ reply ∈ answersTo body arrived, reply.asksForLess = false := by
  induction h with
  | lost => cases ha
  | tunnel => cases ha
  | last =>
    rw [answer?_request] at ha
    split at ha
    · cases ha
    · cases ha
      rw [answersTo_cons hm hb]
      simp [answersTo, hs, asksForLess_of_isSuccess hs]
  | @next hop request first other rest hr hrest ih =>
    have hlead : first.isSuccess = false := by
      rw [Bool.eq_false_iff]
      intro h
      rw [redirected?_of_isSuccess request h] at hr
      cases hr
    rw [answer?_cons (by rw [hr]; rfl)] at ha
    have hk := Request.redirected?_eq_some hr
    rw [answersTo_cons hm hb]
    cases hless : first.asksForLess with
    | true =>
      -- all that follows is a request without a body
      have hnil : answersTo body rest = [] := by
        rw [List.eq_nil_iff_forall_not_mem]
        intro reply hmem
        obtain ⟨asked, n, hin, hpost, -⟩ := mem_answersTo.mp hmem
        rw [hless, if_pos rfl] at hk
        rw [hrest.get hk.1 hin] at hpost
        cases hpost
      simp [hnil, hlead, hless]
    | false =>
      rw [hless, if_neg Bool.false_ne_true] at hk
      have := ih (hk.1.trans hm) (hk.2.trans hb) ha
      simpa [hlead, hless] using this

end Http

namespace Chat

open Http (answersTo)

namespace Client

theorem Arrives.no_payload {credentials : Credentials}
    (h : Arrives (tokenRequest credentials) arrived) (hm : .request request hop reply ∈ arrived)
    (channel text : String) :
    request.body ≠ payloadBody channel text := by
  rcases h.body hm with hb | ⟨built, ht, hb⟩
  · rw [hb]
    exact (payloadBody_ne_nil channel text).symm
  · rw [hb]
    exact body_ne_payload ht channel text

theorem Arrives.answersTo {credentials : Credentials}
    (h : Arrives (tokenRequest credentials) arrived) (channel text : String) :
    answersTo (payloadBody channel text) arrived = [] := by
  rw [List.eq_nil_iff_forall_not_mem]
  intro reply hmem
  obtain ⟨request, hop, hm, -, hb⟩ := Http.mem_answersTo.mp hmem
  exact h.no_payload hm channel text hb

section
variable {client : Client} {settings : Settings} {channel text : String} {before after : Session}

/-- What success of a post tells about the message. -/
theorem Posted.accepted_iff (h : client.Posted channel text before (.ok ()) after arrived later) :
    (∃ reply ∈ answersTo (payloadBody channel text) (arrived ++ later), reply.isSuccess) ↔
      ∀ reply ∈ answersTo (payloadBody channel text) (arrived ++ later),
        reply.asksForLess = false := by
  obtain ⟨ht, _, _, _, _, _, hm, hc, ha, hs⟩ := h.success
  rw [Http.answersTo_append, ht.answersTo, List.nil_append]
  exact hc.accepted_iff (messageRequest_method hm) (messageRequest_body hm) ha hs

theorem Delivered.accepted_iff
    (h : client.Delivered settings text before (.ok ()) after arrived) :
    (∃ reply ∈ answersTo (payloadBody settings.channelId text) arrived, reply.isSuccess) ↔
      ∀ reply ∈ answersTo (payloadBody settings.channelId text) arrived,
        reply.asksForLess = false := by
  obtain ⟨_, _, _, _, _, rfl, ht, hp⟩ := h.success
  rw [Http.answersTo_append, ht.answersTo, List.nil_append]
  exact hp.accepted_iff

end

end Client

end Chat

end ManifestNotice
