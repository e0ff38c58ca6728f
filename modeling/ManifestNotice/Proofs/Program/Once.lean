import ManifestNotice.Proofs.Program.Stages

/-!
# Notices are taken once

Of all the requests of a delivery that bring a message, redirects among them, at
most one is answered with success, and nothing is asked after it. A delivery
that ends with a fault of its own, and not of the network, has brought no
message that was taken (`delivery_takes_once`).
-/

namespace ManifestNotice

open Chat (Client Session)
open Http (Receipt Chain)

-- ---------------------------------------------------------------------------
-- Replies of success
-- ---------------------------------------------------------------------------

namespace Http

theorem Chain.place_of_isSuccess {place : Nat} (h : Chain hop request arrived)
    (hi : arrived[place]? = some (.request asked n reply)) (hs : reply.isSuccess) :
    place + 1 = arrived.length := by
  induction h generalizing place with
  | lost => cases hi
  | tunnel =>
    cases place with
    | zero => cases hi
    | succ place => cases hi
  | last =>
    cases place with
    | zero => rfl
    | succ place => cases hi
  | @next hop request first other rest hr _ ih =>
    cases place with
    | zero =>
      cases hi
      rw [redirected?_of_isSuccess _ hs] at hr
      cases hr
    | succ place =>
      rw [List.getElem?_cons_succ] at hi
      rw [List.length_cons, ih hi]

theorem Chain.answer?_of_place {place : Nat} (h : Chain hop request arrived)
    (hi : arrived[place]? = some (.request asked n reply)) (hs : reply.isSuccess) :
    answer? deadline clock arrived = if deadline ≤ clock ∨ reply.closed then none else some reply := by
  have hlast : arrived.getLast? = some (Receipt.request asked n reply) := by
    rw [List.getLast?_eq_getElem?, ← h.place_of_isSuccess hi hs, Nat.add_sub_cancel, hi]
  obtain ⟨front, hfront⟩ := List.getLast?_eq_some_iff.mp hlast
  refine h.answer?_of_isSuccess ?_ hs
  rw [hfront]
  simp [replies, Receipt.reply?]

end Http

-- ---------------------------------------------------------------------------
-- Taken messages
-- ---------------------------------------------------------------------------

namespace Chat

/-- At the place stands a request that brings a message and is answered with
success. -/
def Taken (receipts : List Receipt) (place : Nat) : Prop :=
  ∃ request hop reply channel text, receipts[place]? = some (.request request hop reply) ∧
    request.body = Utf8.encode (payload channel text).write ∧ reply.isSuccess

theorem Wordless.not_taken (h : Wordless receipts) : ¬ Taken receipts place := by
  rintro ⟨request, hop, reply, channel, text, hi, hb, -⟩
  exact h request hop reply (List.mem_of_getElem? hi) channel text hb

/-- Behind requests that bring no message, a taken one stands in what comes
after. -/
theorem Wordless.taken_append (h : Wordless front) (ht : Taken (front ++ arrived) place) :
    ∃ later, place = front.length + later ∧ Taken arrived later := by
  obtain ⟨request, hop, reply, channel, text, hi, hb, hs⟩ := ht
  rcases Nat.lt_or_ge place front.length with hlt | hge
  · rw [List.getElem?_append_left hlt] at hi
    exact absurd ⟨request, hop, reply, channel, text, hi, hb, hs⟩ h.not_taken
  · rw [List.getElem?_append_right hge] at hi
    exact ⟨place - front.length, by omega, request, hop, reply, channel, text, hi, hb, hs⟩

namespace Client

/-- What is said of a way to bring a message: the one that is taken is the last
of all that arrived, and there is none if it ends with a fault that is not of
the network. -/
structure TakesLast (result : Except Fault Unit) (receipts : List Receipt) : Prop where
  last : Taken receipts place → place + 1 = receipts.length
  refused : result = .error fault → (∀ cause, fault ≠ .network cause) → ¬ Taken receipts place

theorem takesLast_of_wordless (h : Wordless receipts) : TakesLast result receipts where
  last ht := absurd ht h.not_taken
  refused _ _ := h.not_taken

theorem sent_takesLast (client : Client) (channel text : String) (token : Token)
    {backend : Http.Backend} (h : Wordless backend.receipts) :
    TakesLast (client.sent channel text token backend).1
      (client.sent channel text token backend).2.receipts := by
  unfold sent
  dsimp only
  generalize messageRequest client.credentials.serverUrl token.value channel text = message
  obtain ⟨arrived, ha⟩ := asked_arrived client message backend
  rw [ha.receipts]
  constructor
  · intro place ht
    obtain ⟨later, rfl, request, hop, reply, channel, text, hi, hb, hs⟩ := h.taken_append ht
    cases ha.arrives with
    | nothing => cases hi
    | chain _ hc => rw [List.length_append, ← hc.place_of_isSuccess hi hs, Nat.add_assoc]
  · intro fault place hf hn ht
    obtain ⟨later, rfl, request, hop, reply, channel, text, hi, hb, hs⟩ := h.taken_append ht
    cases ha.arrives with
    | nothing => cases hi
    | chain _ hc =>
      have hanswer := ha.answer
      rw [hc.answer?_of_place hi hs] at hanswer
      cases hr : (client.asked message backend).1 with
      | error cause =>
        -- the reply came too late or not at all
        rw [hr] at hf
        obtain ⟨cause, rfl⟩ := client.asked_error message backend hr
        cases hf
        exact hn cause rfl
      | ok final =>
        rw [hr] at hanswer hf
        split at hanswer
        · cases hanswer
        · cases hanswer
          have hok : acceptedBy reply = .ok () := if_pos hs
          change acceptedBy reply = _ at hf
          rw [hok] at hf
          cases hf

theorem course_takesLast (client : Client) (channel text : String) {backend : Http.Backend}
    (h : Wordless backend.receipts) :
    TakesLast ((client.course channel text backend).1.mapError (·.2))
      (client.course channel text backend).2.receipts := by
  have hfirst := client.exchanged_wordless h
  unfold course
  rcases hx : client.exchanged backend with ⟨fault | token, middle⟩
  · rw [hx] at hfirst
    exact takesLast_of_wordless hfirst
  · rw [hx] at hfirst
    have hsecond := client.renewed_wordless token hfirst
    dsimp only at hsecond ⊢
    rcases hn : client.renewed token middle with ⟨fault | token, after⟩
    · rw [hn] at hsecond
      exact takesLast_of_wordless hsecond
    · rw [hn] at hsecond
      have hsent := client.sent_takesLast channel text token hsecond
      dsimp only at hsent ⊢
      have hresult : ((client.sent channel text token after).1.mapError (Stage.message, ·)).mapError
          (·.2) = (client.sent channel text token after).1 := by
        cases (client.sent channel text token after).1 <;> rfl
      rwa [hresult]

end Client

end Chat

-- ---------------------------------------------------------------------------
-- Deliveries
-- ---------------------------------------------------------------------------

structure TakesOnce (done : Except Fault Unit × Run) : Prop where
  once {place other : Nat} : Chat.Taken done.2.session.backend.receipts place →
    Chat.Taken done.2.session.backend.receipts other → place = other
  last {place : Nat} : Chat.Taken done.2.session.backend.receipts place →
    place + 1 = done.2.session.backend.receipts.length
  refused {fault : Fault} {place : Nat} : done.1 = .error fault →
    (∀ cause, fault ≠ .network cause) → ¬ Chat.Taken done.2.session.backend.receipts place

theorem TakesOnce.of_takesLast {done : Except Fault Unit × Run}
    (h : Client.TakesLast done.1 done.2.session.backend.receipts) : TakesOnce done where
  once ht ho := Nat.succ.inj ((h.last ht).trans (h.last ho).symm)
  last := h.last
  refused := h.refused

theorem delivery_takes_once (machine : Machine) (client : Client) (variant : Variant)
    (settings : Settings) (script : List Http.Reply) (clock : Nat) :
    TakesOnce ((Delivery.run (machine.services client) variant settings).run.run
      (Run.fresh script clock)) := by
  apply TakesOnce.of_takesLast
  rw [machine.delivery_run]
  cases (machine.notice variant settings).1 with
  | error fault => exact Client.takesLast_of_wordless .nil
  | ok text =>
    generalize hc : (Run.fresh script clock |>.noted variant.announcement).called
      (machine.notice variant settings).2 = composed
    have hheld : composed.session.token = none := by rw [← hc]; rfl
    have hbefore : composed.session.backend = { script, clock } := by rw [← hc]; rfl
    obtain ⟨hresult, hbackend⟩ := Prod.mk.inj (client.deliver_course settings text hheld)
    dsimp only
    rw [Run.chat_run]
    dsimp only
    rw [hresult, hbackend, hbefore]
    exact client.course_takesLast settings.channelId text .nil

end ManifestNotice
