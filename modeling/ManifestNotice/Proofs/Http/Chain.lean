import ManifestNotice.Http.Exchange
import Mathlib.Data.List.TakeWhile

/-!
# Chains of requests

A request and those that redirects make of it arrive one behind the other.
`follow_exchanged` says all of an exchange by what has arrived: the receipts it
adds are a chain, the clock moves by their delays, and the answer is the reply
to the last of them, if that ends the chain in time.
-/

namespace ManifestNotice.Http

-- ---------------------------------------------------------------------------
-- Receipts
-- ---------------------------------------------------------------------------

namespace Receipt

def reply? : Receipt → Option Reply
  | .request _ _ reply => some reply
  | .tunnel _ => none

def isRedirected : Receipt → Bool
  | .request _ hop _ => hop != 0
  | .tunnel _ => false

@[simp] theorem isRedirected_request :
    (request asked (hop + 1) reply).isRedirected = true := rfl

@[simp] theorem isRedirected_tunnel : (tunnel authority).isRedirected = false := rfl

end Receipt

def replies (arrived : List Receipt) : List Reply := arrived.filterMap Receipt.reply?

@[simp] theorem replies_nil : replies [] = [] := rfl

@[simp] theorem replies_tunnel : replies (.tunnel authority :: rest) = replies rest := rfl

@[simp] theorem replies_request :
    replies (.request request hop reply :: rest) = reply :: replies rest := rfl

def delays (arrived : List Receipt) : Nat :=
  (replies arrived).foldr (fun reply seconds => reply.delay + seconds) 0

@[simp] theorem delays_nil : delays [] = 0 := rfl

@[simp] theorem delays_request :
    delays (.request request hop reply :: rest) = reply.delay + delays rest := rfl

/-- What arrives when a request is sent that `hop` redirects led to: nothing, a
tunnel, or the request and what its reply leads to. -/
inductive Chain : Nat → Request → List Receipt → Prop
  | lost : Chain hop request []
  | tunnel : Chain hop request [.tunnel (authorityOf request.url)]
  | last : Chain hop request [.request request hop reply]
  | next {hop request reply other rest} : request.redirected? reply = some other →
      Chain (hop + 1) other rest → Chain hop request (.request request hop reply :: rest)

/-- The reply at the end of a chain, if it is an answer: it came in time and
leads nowhere else. -/
def answer? (deadline clock : Nat) (chain : List Receipt) : Option Reply :=
  match chain.getLast? with
  | some (.request request _ reply) =>
    if deadline ≤ clock ∨ reply.closed ∨ (request.redirected? reply).isSome then none
    else some reply
  | _ => none

@[simp] theorem answer?_nil : answer? deadline clock [] = none := rfl

@[simp] theorem answer?_tunnel : answer? deadline clock [.tunnel authority] = none := rfl

theorem answer?_request : answer? deadline clock [.request request hop reply] =
    if deadline ≤ clock ∨ reply.closed ∨ (request.redirected? reply).isSome then none
    else some reply := rfl

/-- A reply that leads on is no answer, whatever becomes of the next request. -/
theorem answer?_cons (h : (request.redirected? reply).isSome) :
    answer? deadline clock (.request request hop reply :: rest) = answer? deadline clock rest := by
  cases rest with
  | nil => simp [answer?_request, h]
  | cons receipt rest => simp [answer?, List.getLast?_cons_cons]

-- ---------------------------------------------------------------------------
-- Exchanges
-- ---------------------------------------------------------------------------

/-- What an exchange does to the servers, and how its result follows from what
arrived there. -/
structure Exchanged (hop : Nat) (request : Request) (deadline : Nat) (before : Backend)
    (result : Except Fault Reply) (after : Backend) (arrived : List Receipt) : Prop where
  chain : Chain hop request arrived
  receipts : after.receipts = before.receipts ++ arrived
  clock : after.clock = before.clock + delays arrived
  answer : result.toOption = answer? deadline after.clock arrived

section
variable {before : Backend} {result : Except Fault Reply}

theorem Exchanged.last (h : result.toOption =
      if deadline ≤ (before.receive hop request).clock ∨ before.nextReply.closed ∨
        (request.redirected? before.nextReply).isSome then none else some before.nextReply) :
    Exchanged hop request deadline before result (before.receive hop request)
      [.request request hop before.nextReply] where
  chain := .last
  receipts := rfl
  clock := by simp [Backend.receive]
  answer := by rw [h, answer?_request]

theorem Exchanged.next (hr : request.redirected? before.nextReply = some other)
    (h : Exchanged (hop + 1) other deadline (before.receive hop request) result after rest) :
    Exchanged hop request deadline before result after
      (.request request hop before.nextReply :: rest) where
  chain := .next hr h.chain
  receipts := by rw [h.receipts]; simp [Backend.receive]
  clock := by
    rw [h.clock]
    simp [Backend.receive, Nat.add_assoc]
  answer := by rw [h.answer, answer?_cons (by rw [hr]; rfl)]

end

theorem follow_exchanged (network : Network) (start : Start) (left hop : Nat) (request : Request)
    (before : Backend) :
    ∃ arrived, Exchanged hop request start.deadline before
      (follow network start left hop request before).1
      (follow network start left hop request before).2 arrived := by
  fun_induction follow network start left hop request before with
  | case1 => exact ⟨[], .lost, by simp, by simp, rfl⟩
  | case2 => exact ⟨_, .tunnel, rfl, rfl, rfl⟩
  | case3 left hop request before _ reply after late =>
    -- too late, or closed
    refine ⟨_, .last ?_⟩
    rw [if_pos]
    · rfl
    · simp only [Bool.or_eq_true, decide_eq_true_eq] at late
      exact late.imp_right .inl
  | case4 left hop request before _ reply after late final =>
    refine ⟨_, .last ?_⟩
    rw [if_neg]
    · rfl
    · simp only [Bool.or_eq_true, decide_eq_true_eq, not_or] at late
      rintro (h | h | h)
      · exact late.1 h
      · exact late.2 h
      · rw [final] at h; cases h
  | case5 hop request before _ reply after _ next hr =>
    -- one redirect too many
    exact ⟨_, .last (by rw [if_pos (.inr (.inr (by rw [hr]; rfl)))]; rfl)⟩
  | case6 hop request before _ reply after _ next hr left _ ih =>
    obtain ⟨rest, h⟩ := ih
    exact ⟨_, .next hr h⟩
  | case7 hop request before _ reply after _ next hr left _ =>
    -- a redirect that cannot be followed
    exact ⟨_, .last (by rw [if_pos (.inr (.inr (by rw [hr]; rfl)))]; rfl)⟩

theorem exchange_exchanged (network : Network) (request : Request) (before : Backend) :
    ∃ arrived, Exchanged 0 request (before.clock + timeLimit) before
      (exchange network request before).1 (exchange network request before).2 arrived := by
  unfold exchange
  split
  · exact follow_exchanged network ⟨request.url, _⟩ redirectLimit 0 request before
  · exact ⟨[], .lost, by simp, by simp, rfl⟩

/-- A request that can be asked arrives where its address is answered. -/
theorem exchange_receives (network : Network) (request : Request) (before : Backend)
    (ha : Target.isAskable request.url) (hn : network request.url = .answered) :
    ∃ rest, (exchange network request before).2.receipts =
      before.receipts ++ .request request 0 before.nextReply :: rest := by
  rw [exchange, if_pos ha, redirectLimit, follow, hn]
  dsimp only
  split
  · exact ⟨[], rfl⟩
  · split
    · exact ⟨[], rfl⟩
    · next other _ =>
      split
      · obtain ⟨rest, h⟩ := follow_exchanged network ⟨request.url, before.clock + timeLimit⟩ 9 (0 + 1)
          other (before.receive 0 request)
        exact ⟨rest, by rw [h.receipts]; simp [Backend.receive]⟩
      · exact ⟨[], rfl⟩

-- ---------------------------------------------------------------------------
-- Conversations
-- ---------------------------------------------------------------------------

/-- Whether the receipt is of a request as its sender made it. -/
def Receipt.opens (request : Request) : Receipt → Bool
  | .request asked hop _ => hop == 0 && asked = request
  | .tunnel _ => false

/-- A request, the first time it arrives, and what its redirects led to. -/
def conversation (request : Request) (arrived : List Receipt) : List Receipt :=
  match arrived.dropWhile (!·.opens request) with
  | [] => []
  | first :: rest => first :: rest.takeWhile (·.isRedirected)

theorem conversation_of_not_opens (h : ∀ receipt ∈ arrived, receipt.opens request = false) :
    conversation request arrived = [] := by
  have hd : arrived.dropWhile (!·.opens request) = [] := by
    rw [List.dropWhile_eq_nil_iff]
    intro receipt hm
    simp [h receipt hm]
  rw [conversation, hd]

theorem delays_congr (h : replies first = replies other) : delays first = delays other := by
  rw [delays, h, delays]

theorem Chain.replies_takeWhile (h : Chain (hop + 1) request arrived)
    (hl : ∀ receipt, later.head? = some receipt → receipt.isRedirected = false) :
    replies ((arrived ++ later).takeWhile (·.isRedirected)) = replies arrived := by
  generalize hn : hop + 1 = n at h
  have hlater : later.takeWhile (·.isRedirected) = [] := by
    cases later with
    | nil => rfl
    | cons receipt later => simp [hl receipt rfl]
  induction h generalizing hop with
  | lost => simp [hlater]
  | tunnel => simp [Receipt.isRedirected]
  | last =>
    subst hn
    simp [List.takeWhile_cons, hlater]
  | next _ _ ih =>
    subst hn
    simpa [List.takeWhile_cons] using ih rfl

/-- The replies of a chain are found again among all that arrived. -/
theorem Chain.replies_conversation (h : Chain 0 request arrived)
    (ho : ∀ receipt ∈ later, receipt.opens request = false)
    (hl : ∀ receipt, later.head? = some receipt → receipt.isRedirected = false) :
    replies (conversation request (arrived ++ later)) = replies arrived := by
  cases h with
  | lost => rw [List.nil_append, conversation_of_not_opens ho]
  | tunnel =>
    rw [conversation_of_not_opens]
    · rfl
    · simpa [Receipt.opens] using ho
  | last =>
    have hrest := (Chain.lost : Chain (0 + 1) request []).replies_takeWhile hl
    simpa [conversation, Receipt.opens] using hrest
  | next _ h =>
    simpa [conversation, Receipt.opens] using h.replies_takeWhile hl

theorem redirected?_of_isSuccess (request : Request) (h : reply.isSuccess) :
    request.redirected? reply = none := by
  have hs : 200 ≤ reply.status ∧ reply.status < 300 := by simpa [Reply.isSuccess] using h
  unfold Request.redirected?
  rw [if_neg, if_neg]
  · rfl
  all_goals
    simp only [Bool.or_eq_true, beq_iff_eq]
    omega

theorem getLast?_replies_of_answer? (h : answer? deadline clock arrived = some reply) :
    (replies arrived).getLast? = some reply := by
  unfold answer? at h
  split at h
  · next request hop final hf =>
    split at h
    · cases h
    · cases h
      obtain ⟨front, rfl⟩ := List.getLast?_eq_some_iff.mp hf
      simp [replies, Receipt.reply?]
  · cases h

/-- A successful reply ends a chain, and answers it unless it came too late. -/
theorem Chain.answer?_of_isSuccess (h : Chain hop request arrived)
    (hf : (replies arrived).getLast? = some reply) (hs : reply.isSuccess) :
    answer? deadline clock arrived =
      if deadline ≤ clock ∨ reply.closed then none else some reply := by
  induction h with
  | lost => simp at hf
  | tunnel => simp at hf
  | last =>
    simp only [replies_request, replies_nil, List.getLast?_singleton, Option.some.injEq] at hf
    subst hf
    simp [answer?_request, redirected?_of_isSuccess _ hs]
  | @next hop request first other rest hr _ ih =>
    rw [answer?_cons (by rw [hr]; rfl)]
    apply ih
    simp only [replies_request, List.getLast?_cons, Option.some.injEq] at hf
    cases hrest : (replies rest).getLast? with
    | none =>
      rw [hrest, Option.getD_none] at hf
      rw [hf, redirected?_of_isSuccess request hs] at hr
      cases hr
    | some final =>
      rw [hrest] at hf
      simpa using hf

-- ---------------------------------------------------------------------------
-- What redirects keep
-- ---------------------------------------------------------------------------

/-- The codes that ask for a request without its body. -/
def Reply.asksForLess (reply : Reply) : Bool :=
  reply.status == 301 || reply.status == 302 || reply.status == 303

theorem Reply.asksForLess_eq_false {reply : Reply} :
    reply.asksForLess = false ↔ reply.status ∉ [301, 302, 303] := by
  simp [asksForLess, and_assoc]

/-- A redirect keeps method and body, unless its code asks for less. -/
theorem Request.redirected?_eq_some {request : Request}
    (h : request.redirected? reply = some other) :
    if reply.asksForLess then other.method = .get ∧ other.body = []
    else other.method = request.method ∧ other.body = request.body := by
  unfold redirected? at h
  unfold Reply.asksForLess
  split at h
  · next hs =>
    obtain ⟨_, ⟨⟩, h⟩ := Option.bind_eq_some_iff.mp h
    obtain ⟨url, -, ⟨⟩⟩ := Option.bind_eq_some_iff.mp h
    rw [if_pos hs]
    exact ⟨rfl, rfl⟩
  · next hs =>
    rw [if_neg hs]
    split at h
    · obtain ⟨_, ⟨⟩, h⟩ := Option.bind_eq_some_iff.mp h
      obtain ⟨url, -, ⟨⟩⟩ := Option.bind_eq_some_iff.mp h
      exact ⟨rfl, rfl⟩
    · cases h

/-- What holds of a request and passes on by redirects holds of all that a chain
brings. -/
theorem Chain.forall_mem (holds : Nat → Request → Prop)
    (hstep : ∀ {hop request reply other}, holds hop request →
      request.redirected? reply = some other → holds (hop + 1) other)
    (h : Chain hop request arrived) (h0 : holds hop request)
    (hm : .request asked n reply ∈ arrived) : holds n asked := by
  induction h with
  | lost => cases hm
  | tunnel => simp at hm
  | last =>
    cases List.mem_singleton.mp hm
    exact h0
  | next hr _ ih =>
    rcases List.mem_cons.mp hm with hm | hm
    · cases hm
      exact h0
    · exact ih (hstep h0 hr) hm

/-- The first request of a chain is the only one that no redirect led to. -/
theorem Chain.eq_of_mem_zero (h : Chain 0 request arrived)
    (hm : .request asked 0 reply ∈ arrived) : asked = request := by
  refine Chain.forall_mem (fun n asked => n = 0 → asked = request) ?_ h (fun _ => rfl) hm rfl
  intro hop _ _ _ _ _ hn
  exact absurd hn hop.succ_ne_zero

theorem Chain.not_opens (h : Chain 0 request arrived) (hne : request ≠ other) :
    ∀ receipt ∈ arrived, receipt.opens other = false := by
  rintro (_ | ⟨asked, hop, reply⟩) hm
  · rfl
  · cases hop with
    | zero => simpa [Receipt.opens, h.eq_of_mem_zero hm] using hne
    | succ hop => rfl

/-- No redirect leads to a request as its sender made it. -/
theorem Chain.not_opens_redirected (h : Chain (hop + 1) request arrived) :
    ∀ receipt ∈ arrived, receipt.opens other = false := by
  rintro (_ | ⟨asked, n, reply⟩) hm
  · rfl
  · have hn : n ≠ 0 :=
      h.forall_mem (fun n _ => n ≠ 0) (fun _ _ => Nat.succ_ne_zero _) (Nat.succ_ne_zero hop) hm
    simp [Receipt.opens, hn]

theorem Chain.countP_opens_le (h : Chain 0 request arrived) (other : Request) :
    arrived.countP (·.opens other) ≤ 1 := by
  cases h with
  | lost => simp
  | tunnel => simp [Receipt.opens]
  | last => exact List.countP_le_length
  | @next _ _ _ _ rest _ hrest =>
    have hzero : rest.countP (·.opens other) = 0 :=
      List.countP_eq_zero.mpr fun receipt hm =>
        Bool.eq_false_iff.mp (hrest.not_opens_redirected receipt hm)
    rw [List.countP_cons, hzero]
    split <;> omega

theorem Chain.head?_isRedirected (h : Chain 0 request arrived) :
    ∀ receipt, arrived.head? = some receipt → receipt.isRedirected = false := by
  cases h <;> simp [Receipt.isRedirected]

/-- A chain brings the body it starts with, or none. -/
theorem Chain.body (h : Chain hop request arrived) (hm : .request asked n reply ∈ arrived) :
    asked.body = request.body ∨ asked.body = [] := by
  refine Chain.forall_mem (fun _ asked => asked.body = request.body ∨ asked.body = []) ?_ h
    (.inl rfl) hm
  intro _ asked _ other hb hr
  have hk := Request.redirected?_eq_some hr
  split at hk
  · exact .inr hk.2
  · rwa [hk.2]

theorem Chain.get (h : Chain hop request arrived) (hg : request.method = .get)
    (hm : .request asked n reply ∈ arrived) : asked.method = .get := by
  refine Chain.forall_mem (fun _ asked => asked.method = .get) ?_ h hg hm
  intro _ asked _ other hg hr
  have hk := Request.redirected?_eq_some hr
  split at hk
  · exact hk.1
  · exact hk.1.trans hg

end ManifestNotice.Http
