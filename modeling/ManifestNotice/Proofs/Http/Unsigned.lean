import ManifestNotice.Proofs.Http.Chain
import ManifestNotice.Proofs.Steps
import Mathlib.Data.List.Forall2

/-!
# Requests without authorization

Two requests that differ in their authorization only are exchanged alike: the
same arrives for them but for the authorization, and they come to the same
faults or to replies that differ in bodies of success only (`exchange_alike`).
Which bodies may differ is left open.
-/

namespace ManifestNotice.Http

-- ---------------------------------------------------------------------------
-- Requests
-- ---------------------------------------------------------------------------

namespace Headers

theorem without_filter (headers : Headers) (p : String × Bytes → Bool) (name : String) :
    without (headers.filter p) name = (headers.without name).filter p := by
  simp [without, Bool.and_comm]

theorem without_without (headers : Headers) (name : String) :
    (headers.without name).without name = headers.without name := by
  simp [without]

theorem without_cons_self (headers : Headers) (name : String) (value : Bytes) :
    without ((name, value) :: headers) name = headers.without name := by
  simp [without]

theorem without_append (first later : Headers) (name : String) :
    without (first ++ later) name = first.without name ++ later.without name :=
  List.filter_append ..

theorem without_set (headers : Headers) (value : Bytes) (h : name ≠ other) :
    (headers.set name value).without other = (headers.without other).set name value := by
  simp [set, without, Bool.and_comm, h]

end Headers

namespace Request

def unsigned (request : Request) : Request :=
  { request with headers := request.headers.without authorization }

theorem unsigned_eq_iff {a b : Request} : a.unsigned = b.unsigned ↔
    a.method = b.method ∧ a.url = b.url ∧
      a.headers.without authorization = b.headers.without authorization ∧ a.body = b.body := by
  simp [unsigned]

def moved (request : Request) (previous url : Url) : Request :=
  let headers :=
    if sameServer url previous then request.headers else request.headers.without authorization
  let headers := match referer? url previous with
    | some referer => headers.set "referer" referer
    | none => headers
  { request with url, headers }

theorem redirected?_eq (request : Request) (reply : Reply) : request.redirected? reply =
    (if reply.asksForLess then some request.emptied
      else if reply.status == 307 || reply.status == 308 then some request else none).bind
      fun next => (location? request.url reply).map (next.moved request.url) := by
  unfold redirected? Reply.asksForLess
  cases location? request.url reply <;> split <;> try split
  all_goals rfl

section
variable {a b : Request}

theorem emptied_unsigned (h : a.unsigned = b.unsigned) :
    a.emptied.unsigned = b.emptied.unsigned := by
  obtain ⟨-, hurl, hheaders, -⟩ := unsigned_eq_iff.mp h
  refine unsigned_eq_iff.mpr ⟨rfl, hurl, ?_, rfl⟩
  rw [emptied, emptied, Headers.without_filter, Headers.without_filter, hheaders]

theorem moved_unsigned (h : a.unsigned = b.unsigned) (previous url : Url) :
    (a.moved previous url).unsigned = (b.moved previous url).unsigned := by
  obtain ⟨hmethod, -, hheaders, hbody⟩ := unsigned_eq_iff.mp h
  refine unsigned_eq_iff.mpr ⟨hmethod, rfl, ?_, hbody⟩
  have hkept (request : Request) : Headers.without (if sameServer url previous then request.headers
      else request.headers.without authorization) authorization =
        request.headers.without authorization := by
    split
    · rfl
    · exact Headers.without_without ..
  unfold moved
  dsimp only
  cases referer? url previous with
  | none => rw [hkept, hkept, hheaders]
  | some referer =>
    rw [Headers.without_set _ _ (by decide), Headers.without_set _ _ (by decide), hkept, hkept,
      hheaders]

theorem redirected?_unsigned (h : a.unsigned = b.unsigned) (reply : Reply) :
    (a.redirected? reply).map unsigned = (b.redirected? reply).map unsigned := by
  obtain ⟨-, hurl, -, -⟩ := unsigned_eq_iff.mp h
  rw [redirected?_eq, redirected?_eq, hurl]
  cases location? b.url reply with
  | none => simp
  | some url =>
    split
    · exact congrArg some (moved_unsigned (emptied_unsigned h) b.url url)
    · split
      · exact congrArg some (moved_unsigned h b.url url)
      · rfl

end

end Request

-- ---------------------------------------------------------------------------
-- Servers
-- ---------------------------------------------------------------------------

/-- The same reply, or two of success that differ in their bodies only. -/
inductive Reply.Alike (bodies : Bytes → Bytes → Prop) : Reply → Reply → Prop
  | same (reply : Reply) : Alike bodies reply reply
  | success {reply : Reply} {body : Bytes} : reply.isSuccess → bodies reply.body body →
      Alike bodies reply { reply with body }

/-- What a receipt shows but for authorization and answer. -/
inductive Trail where
  | tunnel (authority : List Char)
  | request (request : Request)
  deriving DecidableEq

def Receipt.trail : Receipt → Trail
  | .tunnel authority => .tunnel authority
  | .request asked _ _ => .request asked.unsigned

structure Backend.Alike (bodies : Bytes → Bytes → Prop) (a b : Backend) : Prop where
  script : List.Forall₂ (Reply.Alike bodies) a.script b.script
  clock : a.clock = b.clock
  trail : a.receipts.map Receipt.trail = b.receipts.map Receipt.trail

section
variable {bodies : Bytes → Bytes → Prop} {a b : Request} {reply answer : Reply} {first second : Backend}

theorem Reply.Alike.closed (h : Reply.Alike bodies reply answer) : reply.closed = answer.closed := by
  cases h <;> rfl

theorem Reply.Alike.delay (h : Reply.Alike bodies reply answer) : reply.delay = answer.delay := by
  cases h <;> rfl

theorem Reply.Alike.redirected? (h : Reply.Alike bodies reply answer)
    (hr : a.unsigned = b.unsigned) :
    (a.redirected? reply).map Request.unsigned = (b.redirected? answer).map Request.unsigned := by
  cases h with
  | same => exact Request.redirected?_unsigned hr reply
  | success hs => rw [redirected?_of_isSuccess a hs, redirected?_of_isSuccess b (by exact hs)]

theorem Backend.Alike.nextReply (h : Backend.Alike bodies first second) :
    Reply.Alike bodies first.nextReply second.nextReply := by
  rcases first with ⟨script, _, _⟩
  rcases second with ⟨other, _, _⟩
  have hs : List.Forall₂ (Reply.Alike bodies) script other := h.script
  cases hs with
  | nil => exact .same unscripted
  | cons hreply _ => exact hreply

theorem Backend.Alike.tail (h : Backend.Alike bodies first second) :
    List.Forall₂ (Reply.Alike bodies) first.script.tail second.script.tail := by
  rcases first with ⟨script, _, _⟩
  rcases second with ⟨other, _, _⟩
  have hs : List.Forall₂ (Reply.Alike bodies) script other := h.script
  cases hs with
  | nil => exact .nil
  | cons _ hrest => exact hrest

theorem Backend.Alike.receive (h : Backend.Alike bodies first second) (hop : Nat)
    (hr : a.unsigned = b.unsigned) :
    Backend.Alike bodies (first.receive hop a) (second.receive hop b) where
  script := h.tail
  clock := by
    show first.clock + first.nextReply.delay = second.clock + second.nextReply.delay
    rw [h.clock, h.nextReply.delay]
  trail := by
    simp only [Backend.receive, List.map_append, h.trail, List.map_cons, List.map_nil, Receipt.trail, hr]

theorem Backend.Alike.refuseTunnel (h : Backend.Alike bodies first second) (url : Url) :
    Backend.Alike bodies (first.refuseTunnel url) (second.refuseTunnel url) where
  script := h.script
  clock := h.clock
  trail := by simp only [Backend.refuseTunnel, List.map_append, h.trail]

end

-- ---------------------------------------------------------------------------
-- Exchanges
-- ---------------------------------------------------------------------------

abbrev EndsAlike (bodies : Bytes → Bytes → Prop) (done other : Except Fault Reply × Backend) :
    Prop :=
  AgreeIn (Backend.Alike bodies) (Reply.Alike bodies) done other

section
variable {bodies : Bytes → Bytes → Prop} {a b : Request} {first second : Backend}

theorem follow_alike_step {network : Network} {start : Start} {left hop : Nat}
    (hrest : ∀ {fewer : Nat} {a b : Request} {first second : Backend}, left = fewer + 1 →
      a.unsigned = b.unsigned → Backend.Alike bodies first second →
      EndsAlike bodies (follow network start fewer (hop + 1) a first)
        (follow network start fewer (hop + 1) b second))
    (hr : a.unsigned = b.unsigned) (hb : Backend.Alike bodies first second) :
    EndsAlike bodies (follow network start left hop a first)
      (follow network start left hop b second) := by
  have hurl : a.url = b.url := (Request.unsigned_eq_iff.mp hr).2.1
  have hafter := hb.receive hop hr
  have hreply := hb.nextReply
  have hled := hreply.redirected? hr
  rw [follow, follow, ← hurl]
  cases network a.url with
  | refused => exact ⟨.error _, hb⟩
  | tunnelled => exact ⟨.error _, hb.refuseTunnel a.url⟩
  | answered =>
    dsimp only
    rw [← hafter.clock, ← hreply.closed]
    split
    · exact ⟨.error _, hafter⟩
    · cases ha : a.redirected? first.nextReply with
      | none =>
        rw [ha] at hled
        rw [Option.map_eq_none_iff.mp hled.symm]
        exact ⟨.ok hreply, hafter⟩
      | some next =>
        rw [ha] at hled
        obtain ⟨other, hother, hnext⟩ := Option.map_eq_some_iff.mp hled.symm
        rw [hother]
        cases left with
        | zero => exact ⟨.error _, hafter⟩
        | succ left =>
          have hto : next.url = other.url := (Request.unsigned_eq_iff.mp hnext).2.1.symm
          dsimp only
          rw [← hto]
          split
          · exact hrest rfl hnext.symm hafter
          · exact ⟨.error _, hafter⟩

theorem follow_alike (network : Network) (start : Start) (left hop : Nat)
    (hr : a.unsigned = b.unsigned) (hb : Backend.Alike bodies first second) :
    EndsAlike bodies (follow network start left hop a first)
      (follow network start left hop b second) := by
  induction left generalizing hop a b first second with
  | zero => exact follow_alike_step (fun h => by cases h) hr hb
  | succ left ih =>
    refine follow_alike_step (fun h hr hb => ?_) hr hb
    cases h
    exact ih _ hr hb

theorem exchange_alike (network : Network) (hr : a.unsigned = b.unsigned)
    (hb : Backend.Alike bodies first second) :
    EndsAlike bodies (exchange network a first) (exchange network b second) := by
  have hurl : a.url = b.url := (Request.unsigned_eq_iff.mp hr).2.1
  rw [exchange, exchange, ← hurl, ← hb.clock]
  split
  · exact follow_alike network _ redirectLimit 0 hr hb
  · exact ⟨.error _, hb⟩

end

end ManifestNotice.Http
