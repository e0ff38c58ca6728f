import ManifestNotice.Proofs.Chat.Acceptance
import ManifestNotice.Proofs.Program.Steps

/-!
# Accepted notices

What a reported success of a post or of a whole delivery tells about the
message: a request with it was answered with success exactly if none was
answered with a code that asks for a request without a body
(`success_iff_kept`). A redirect of that kind makes a success of a message that
nobody took (`success_without_message`).
-/

namespace ManifestNotice

open Chat (Client Session payload)
open Http (answersTo)

/-- A success that is reported for a message: of its post, or of the delivery of
a notice. -/
inductive Reported (client : Client) : String → String → Http.Backend → Http.Backend → Prop
  | post {channel text} {session after : Session} :
      (client.post channel text).run.run session = (.ok (), after) →
      Reported client channel text session.backend after.backend
  | delivery {machine : Machine} {variant settings text} {run after : Run} :
      (machine.notice variant settings).1 = .ok text →
      (Delivery.run (machine.services client) variant settings).run.run run = (.ok (), after) →
      Reported client settings.channelId text run.session.backend after.session.backend

theorem success_iff_kept (client : Client) (channel text : String) (before after : Http.Backend)
    (h : Reported client channel text before after) :
    ∃ arrived, after.receipts = before.receipts ++ arrived ∧
      ((∃ reply ∈ answersTo (Utf8.encode (payload channel text).write) arrived, reply.isSuccess) ↔
        ∀ reply ∈ answersTo (Utf8.encode (payload channel text).write) arrived,
          reply.status ∉ [301, 302, 303]) := by
  simp only [← Http.Reply.asksForLess_eq_false]
  cases h with
  | @post _ _ session after h =>
    obtain ⟨first, later, hp⟩ := client.post_posted channel text session
    rw [h] at hp
    exact ⟨first ++ later, hp.receipts, hp.accepted_iff⟩
  | @delivery machine variant settings _ run after hn h =>
    rw [machine.delivery_run, hn] at h
    generalize hc : (run.noted variant.announcement).called
      (machine.notice variant settings).2 = composed at h
    obtain ⟨hok, rfl⟩ := Prod.mk.inj (h.symm.trans (Run.chat_run _ composed))
    obtain ⟨arrived, hd⟩ := client.deliver_delivered settings text composed.session
    rw [← hok] at hd
    refine ⟨arrived, hd.receipts.trans ?_, hd.accepted_iff⟩
    rw [← hc]
    rfl

/-- A redirect that asks for the request as it is brings the message on. -/
theorem success_of_kept_message :
    let client : Client := ⟨⟨"id", "secret", "http://h"⟩, Http.Network.scripted⟩
    let grant := Utf8.ofString "\x7b\"access_token\":\"t\"\x7d"
    let moved := [("location", Utf8.ofString "/other")]
    let session : Session :=
      { backend :=
          { script := [{ status := 200, body := grant }, { status := 307, headers := moved },
              { status := 200 }]
            clock := 0 } }
    let after := ((client.post "c" "x").run.run session).2
    Reported client "c" "x" session.backend after.backend ∧
      ∃ reply ∈ answersTo (Utf8.encode (payload "c" "x").write) after.backend.receipts,
        reply.isSuccess := by
  intro client grant moved session after
  have hok : ((client.post "c" "x").run.run session).1.toOption = some () := by decide +kernel
  have hreported : Reported client "c" "x" session.backend after.backend := .post (eq_mk_ok hok)
  obtain ⟨arrived, hr, hiff⟩ := success_iff_kept client "c" "x" _ _ hreported
  have ha : after.backend.receipts = arrived := hr.trans (List.nil_append arrived)
  rw [← ha] at hiff
  refine ⟨hreported, hiff.mpr ?_⟩
  decide +kernel

/-- A redirect that asks for less makes a success of a message that nobody
took. -/
theorem success_without_message :
    ¬ ∀ (client : Client) (channel text : String) (session after : Session)
        (arrived : List Http.Receipt),
      (client.post channel text).run.run session = (.ok (), after) →
      after.backend.receipts = session.backend.receipts ++ arrived →
      ∃ reply ∈ answersTo (Utf8.encode (payload channel text).write) arrived, reply.isSuccess := by
  intro h
  let client : Client := ⟨⟨"id", "secret", "http://h"⟩, Http.Network.scripted⟩
  let grant := Utf8.ofString "\x7b\"access_token\":\"t\"\x7d"
  let moved := [("location", Utf8.ofString "/other")]
  let session : Session :=
    { backend :=
        { script := [{ status := 200, body := grant }, { status := 302, headers := moved },
            { status := 200 }]
          clock := 0 } }
  have hok : ((client.post "c" "x").run.run session).1.toOption = some () := by decide +kernel
  let after := ((client.post "c" "x").run.run session).2
  have hpost : (client.post "c" "x").run.run session = (.ok (), after) := eq_mk_ok hok
  have hdone := h client "c" "x" session after _ hpost (List.nil_append _).symm
  revert hdone
  decide +kernel

end ManifestNotice
