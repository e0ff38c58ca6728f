import ManifestNotice.Proofs.Program.Unseen
import ManifestNotice.Proofs.Program.Verbatim

/-!
# Dry runs

A dry run goes through the stages that come before the servers, and through no
other: it prints the notice that a run in the same place would deliver, or ends
with the failure that this run would end with (`dry_run_rehearses`). It needs no
account.
-/

namespace ManifestNotice

open Chat (Client)
open Http (Receipt)

-- ---------------------------------------------------------------------------
-- Texts of messages
-- ---------------------------------------------------------------------------

namespace Chat

/-- The body of the request can be read as a message with the text. -/
def Says (text : String) (request : Http.Request) : Prop :=
  ∃ written channel, request.body = Utf8.ofString written ∧
    Json.Grammar.IsText (payload channel text) written.toList

theorem not_isText_payload (h : text.head?.all fun c => !Json.Grammar.isSpace c && c != '\x7b') :
    ¬ Json.Grammar.IsText (payload channel message) text := by
  rintro ⟨start, rest, ⟨run, rfl, hrun⟩, hreads, -⟩
  cases run with
  | nil =>
    rw [List.nil_append] at h
    unfold payload at hreads
    cases hreads with
    | object => simp at h
  | cons c run =>
    have hspace := hrun c List.mem_cons_self
    simp [hspace] at h

theorem not_says_of_form (h : request.body = tokenForm) : ¬ Says text request := by
  rintro ⟨written, channel, hb, hj⟩
  rw [h, tokenForm] at hb
  rw [← Utf8.ofString_injective hb] at hj
  exact not_isText_payload (by decide) hj

theorem not_says_of_nil (h : request.body = []) : ¬ Says text request := by
  rintro ⟨written, channel, hb, hj⟩
  have hempty : Utf8.ofString "" = Utf8.ofString written := h.symm.trans hb
  rw [← Utf8.ofString_injective hempty] at hj
  exact not_isText_payload rfl hj

theorem payload_injective (h : payload channel text = payload other message) : text = message := by
  have := Json.object.inj h
  simp only [List.cons.injEq, Prod.mk.injEq, Json.object.injEq, Json.string.injEq, true_and,
    and_true, String.toList_inj] at this
  exact this.2

theorem says_payloadBody (h : request.body = payloadBody channel text) :
    Says other request ↔ other = text := by
  have hwritten : request.body = Utf8.ofString (String.ofList (payload channel text).write) := by
    rw [h, Utf8.ofString, String.toList_ofList, payloadBody]
  constructor
  · rintro ⟨written, channel', hb, hj⟩
    rw [← Utf8.ofString_injective (hwritten.symm.trans hb), String.toList_ofList] at hj
    exact payload_injective ((payload_written channel text).isText_iff.mp hj)
  · rintro rfl
    refine ⟨_, channel, hwritten, ?_⟩
    rw [String.toList_ofList]
    exact (payload_written channel other).isText

end Chat

-- ---------------------------------------------------------------------------
-- Both runs
-- ---------------------------------------------------------------------------

def Stage.isOutward : Stage → Bool
  | .settings | .credentials | .commit => false
  | .exchange | .renewal | .message => true

namespace Machine

/-- The run has its notice: no stage fails that comes before the servers. -/
def HasNotice (course : Except (Stage × Failure) Unit) : Prop :=
  ∀ stage failure, course = .error (stage, failure) → stage.isOutward

/-- What is said of a dry run and of a run `done` that goes through the stages
of `course`. -/
structure Rehearses (machine : Machine) (variant : Variant) (chosen : Option Bytes)
    (course : Except (Stage × Failure) Unit) (dry done : Except Failure Unit × Run) : Prop where
  stages : done.1 = course.mapError (·.2)
  /-- Where the dry run succeeds it prints the notice, every message that
  arrives says it, and if the run succeeds one has arrived. -/
  prints : dry.1 = .ok () → ∃ settings notice,
    machine.loadSettings chosen = .ok settings ∧ machine.Composes settings variant notice ∧
    dry.2.printed = notice ++ "\n" ∧
    (∀ request hop reply, Receipt.request request hop reply ∈ done.2.session.backend.receipts →
      ∀ text, Chat.Says text request → text = notice) ∧
    (done.1 = .ok () → ∃ request reply,
      Receipt.request request 0 reply ∈ done.2.session.backend.receipts ∧ Chat.Says notice request)
  succeeds : dry.1 = .ok () ↔ HasNotice course
  fails {failure : Failure} : dry.1 = .error failure ↔
    course = .error (.settings, failure) ∨ course = .error (.commit, failure)
  mute {failure : Failure} : dry.1 = .error failure → dry.2.printed = ""
  silent : dry.2.session.backend.receipts = []
  calls : dry.2.calls = done.2.calls

theorem dry_run_eq (machine : Machine) (variant : Variant) (options : CommandLine.Options)
    (run : Run) (h : options.dryRun = true) :
    (machine.execute variant options).run.run run =
      match machine.loadSettings options.config with
      | .error failure => (.error failure, run)
      | .ok settings =>
        let composed := (run.noted variant.announcement).called (machine.notice variant settings).2
        match (machine.notice variant settings).1 with
        | .error fault => (.error (.delivery (.commit fault)), composed)
        | .ok text => (.ok (), { composed with printed := composed.printed ++ text ++ "\n" }) := by
  simp only [execute, run_bind, run_ofExcept]
  cases machine.loadSettings options.config with
  | error failure => rfl
  | ok settings =>
    simp only [h, if_true, run_bind, Run.deliver_run, compose_run]
    cases (machine.notice variant settings).1 <;> rfl

/-- A dry run does not look at the environment. -/
theorem dry_run_environment (machine : Machine) (environment : Environment) (variant : Variant)
    (options : CommandLine.Options) (run : Run) (h : options.dryRun = true) :
    (({ machine with environment } : Machine).execute variant options).run.run run =
      (machine.execute variant options).run.run run := by
  rw [dry_run_eq _ variant options run h, dry_run_eq machine variant options run h]
  rfl

theorem course_isOutward {client : Client}
    (h : (client.course channel text backend).1 = .error (stage, fault)) : stage.isOutward := by
  unfold Client.course at h
  rcases hx : client.exchanged backend with ⟨fault | token, middle⟩
  · rw [hx] at h
    cases h
    rfl
  · rw [hx] at h
    dsimp only at h
    rcases hn : client.renewed token middle with ⟨fault | token', after⟩
    · rw [hn] at h
      cases h
      rfl
    · rw [hn] at h
      dsimp only at h
      cases hs : (client.sent channel text token' after).1 with
      | ok =>
        rw [hs] at h
        cases h
      | error =>
        rw [hs] at h
        cases h
        rfl

theorem HasNotice.not_error {stages : Except (Stage × Failure) Unit} {failure : Failure}
    (h : HasNotice stages) :
    ¬ (stages = .error (.settings, failure) ∨ stages = .error (.commit, failure)) := by
  rintro (hc | hc)
  · exact Bool.false_ne_true (h _ _ hc)
  · exact Bool.false_ne_true (h _ _ hc)

theorem hasNotice_deliveryCourse (client : Client) (script : List Http.Reply) (clock : Nat)
    (hn : (notice machine variant settings).1 = .ok text) :
    HasNotice (machine.deliveryCourse client variant settings script clock) := by
  rw [deliveryCourse, hn, mapError_ok_bind]
  intro stage failure hc
  cases hx : (client.course settings.channelId text { script, clock }).1 with
  | ok =>
    rw [hx] at hc
    cases hc
  | error reason =>
    obtain ⟨stage', fault⟩ := reason
    rw [hx] at hc
    cases hc
    exact course_isOutward hx

/-- What a delivery says to the servers, once it has its notice. -/
theorem delivery_says (machine : Machine) (client : Client) (run : Run)
    (hr : run.session.backend.receipts = []) (hn : (machine.notice variant settings).1 = .ok text) :
    let done := (Run.deliver (Delivery.run (machine.services client) variant settings)).run.run run
    (∀ request hop reply, Receipt.request request hop reply ∈ done.2.session.backend.receipts →
      ∀ other, Chat.Says other request → other = text) ∧
    (done.1 = .ok () → ∃ request reply,
      Receipt.request request 0 reply ∈ done.2.session.backend.receipts ∧
        Chat.Says text request) := by
  intro done
  generalize hc : (run.noted variant.announcement).called (machine.notice variant settings).2 =
    composed
  have hnone : composed.session.backend.receipts = [] := by rw [← hc]; exact hr
  have hdone : done = (((client.deliver settings text).run.run composed.session).1.mapError
      Failure.delivery, { composed with
        session := ((client.deliver settings text).run.run composed.session).2 }) := by
    show (Run.deliver (Delivery.run (machine.services client) variant settings)).run.run run = _
    rw [Run.deliver_run, delivery_run, hn]
    dsimp only
    rw [hc, Run.chat_run]
  obtain ⟨arrived, hd⟩ := client.deliver_delivered settings text composed.session
  have hreceipts := hd.receipts
  rw [hnone, List.nil_append] at hreceipts
  rw [hdone]
  refine ⟨?_, ?_⟩
  · intro request hop reply hm other hsays
    rw [hreceipts] at hm
    rcases hd.bodies hm with hb | ⟨-, hb⟩ | hb
    · exact absurd hsays (Chat.not_says_of_form hb)
    · exact absurd hsays (Chat.not_says_of_nil hb)
    · exact (Chat.says_payloadBody hb).mp hsays
  · intro hok
    cases hresult : ((client.deliver settings text).run.run composed.session).1 with
    | error fault =>
      rw [hresult] at hok
      cases hok
    | ok =>
      rw [hresult] at hd
      obtain ⟨request, reply, hm, hb⟩ := hd.brings
      exact ⟨request, reply, hreceipts ▸ hm, (Chat.says_payloadBody hb).mpr rfl⟩

theorem rehearses_failure {stages : Except (Stage × Failure) Unit} {failure : Failure} {run : Run}
    (h : stages = .error (.settings, failure) ∨ stages = .error (.commit, failure))
    (hp : run.printed = "") (hr : run.session.backend.receipts = []) :
    Rehearses machine variant chosen stages (.error failure, run) (.error failure, run) where
  stages := by rcases h with rfl | rfl <;> rfl
  prints := nofun
  succeeds := ⟨nofun, fun hn => absurd h hn.not_error⟩
  fails := by
    rcases h with rfl | rfl <;> simp
  mute _ := hp
  silent := hr
  calls := rfl

theorem delivery_rehearses (machine real : Machine) (client : Client) (script : List Http.Reply)
    (clock : Nat) (hs : machine.loadSettings chosen = .ok settings)
    (hn : real.notice variant settings = machine.notice variant settings) :
    let start := Run.fresh script clock
    let composed := (start.noted variant.announcement).called (machine.notice variant settings).2
    Rehearses machine variant chosen
      (real.deliveryCourse client variant settings script clock)
      (match (machine.notice variant settings).1 with
        | .error fault => (.error (.delivery (.commit fault)), composed)
        | .ok text => (.ok (), { composed with printed := composed.printed ++ text ++ "\n" }))
      ((Run.deliver (Delivery.run (real.services client) variant settings)).run.run start) := by
  intro start composed
  cases ht : (machine.notice variant settings).1 with
  | error fault =>
    have hdone : (Run.deliver (Delivery.run (real.services client) variant settings)).run.run
        start = (.error (.delivery (.commit fault)), composed) := by
      rw [Run.deliver_run, delivery_run, hn, ht]
      rfl
    rw [hdone, deliveryCourse, hn, ht]
    exact rehearses_failure (.inr rfl) rfl rfl
  | ok text =>
    have hends := real.delivery_ends client variant settings script clock
    have hsays := real.delivery_says client start rfl (hn ▸ ht)
    have hnotice := hasNotice_deliveryCourse client script clock (hn ▸ ht : (real.notice _ _).1 = _)
    refine ⟨hends.result, fun _ => ?_, ?_, ?_, ?_, rfl, ?_⟩
    · exact ⟨settings, text, hs, composes_of_notice ht, rfl, hsays⟩
    · exact ⟨fun _ => hnotice, fun _ => rfl⟩
    · refine ⟨fun hf => ?_, fun hf => absurd hf hnotice.not_error⟩
      cases hf
    · intro failure hf
      cases hf
    · rw [Run.deliver_run, delivery_run, hn, ht]
      rfl

theorem dry_run_rehearses (machine : Machine) (account : Environment) (variant : Variant)
    (options : CommandLine.Options) (script : List Http.Reply) (clock : Nat)
    (h : account.hasAccount) :
    let start := Run.fresh script clock
    let real : Machine := { machine with environment := account }
    let dry := (machine.execute variant { options with dryRun := true }).run.run start
    Rehearses machine variant options.config (real.course variant options.config script clock) dry
        ((real.execute variant { options with dryRun := false }).run.run start) ∧
      ∀ environment : Environment, (({ machine with environment } : Machine).execute variant
        { options with dryRun := true }).run.run start = dry := by
  intro start real dry
  refine ⟨?_, fun environment => machine.dry_run_environment environment variant _ start rfl⟩
  have hdry : dry = _ := machine.dry_run_eq variant { options with dryRun := true } start rfl
  have hload : real.loadSettings options.config = machine.loadSettings options.config := rfl
  rw [hdry, real.execute_run variant _ start rfl, course]
  simp only [hload]
  cases hs : machine.loadSettings options.config with
  | error failure => exact rehearses_failure (.inl rfl) rfl rfl
  | ok settings =>
    obtain ⟨credentials, hc, -⟩ := real.credentials_of_account settings h
    simp only [mapError_ok_bind, hc]
    exact machine.delivery_rehearses real _ script clock hs rfl

/-- Without an account the notice is printed all the same. -/
theorem rehearses_without_account :
    let account := [(Credentials.idVariable, Utf8.ofString "id"),
      (Credentials.secretVariable, Utf8.ofString "secret")]
    let place : Commit.Place := { files := .empty, current := [Commit.toolName], searchPath := [] }
    let machine : Machine := { place, environment := [], network := fun _ => .answered }
    let real : Machine := { machine with environment := account }
    let script : List Http.Reply :=
      [{ status := 200, body := Utf8.ofString "[\"t\"]" }, { status := 200 }]
    let start := Run.fresh script 1000
    let options : CommandLine.Options := {}
    let dry := (machine.execute .plain { options with dryRun := true }).run.run start
    Environment.hasAccount account ∧ dry.1 = .ok () ∧
      dry.2.printed = Notice.plain "ncs-itl/nrf" ++ "\n" ∧
      Rehearses machine .plain options.config (real.course .plain options.config script 1000) dry
        ((real.execute .plain { options with dryRun := false }).run.run start) := by
  intro account place machine real script start options dry
  have haccount : Environment.hasAccount account := by decide +kernel
  obtain ⟨hboth, -⟩ := machine.dry_run_rehearses account .plain options script 1000 haccount
  have hload : machine.loadSettings none = .ok {} := eq_ok_of_toOption (by decide +kernel)
  have hdry : dry.1 = .ok () := by
    show ((machine.execute .plain { options with dryRun := true }).run.run start).1 = _
    rw [machine.dry_run_eq .plain _ start rfl, hload]
    dsimp only [notice]
  obtain ⟨settings, notice, hs, hn, hp, -⟩ := hboth.prints hdry
  cases hload.symm.trans hs
  cases hn
  exact ⟨haccount, hdry, hp, hboth⟩

end Machine

end ManifestNotice
