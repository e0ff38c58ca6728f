import ManifestNotice.Proofs.Chat.Acceptance
import ManifestNotice.Proofs.Program.Steps

/-!
# Stages

A run that is to deliver a notice goes through stages, one after the other, and
ends with the failure of the first one that fails (`course`). What it has done
by then, `execute_ends` says: nothing that belongs to a later stage.
-/

namespace ManifestNotice

open Chat (Client Session)

inductive Stage where
  | settings
  | credentials
  | commit
  /-- The credentials are exchanged for a token. -/
  | exchange
  /-- They are exchanged again, if the token would not last. -/
  | renewal
  | message
  deriving BEq, DecidableEq, Repr

namespace Chat.Client

-- ---------------------------------------------------------------------------
-- Stages of a delivery
-- ---------------------------------------------------------------------------

/-- The token if it lasts, else another one. -/
def renewed (client : Client) (held : Token) (backend : Http.Backend) :
    Except Fault Token × Http.Backend :=
  if held.isFresh backend.clock then (.ok held, backend) else client.exchanged backend

def sent (client : Client) (channel text : String) (token : Token) (backend : Http.Backend) :
    Except Fault Unit × Http.Backend :=
  let message := messageRequest client.credentials.serverUrl token.value channel text
  let (reply, backend) := client.asked message backend
  (reply.bind acceptedBy, backend)

def course (client : Client) (channel text : String) (backend : Http.Backend) :
    Except (Stage × Fault) Unit × Http.Backend :=
  match client.exchanged backend with
  | (.error fault, backend) => (.error (.exchange, fault), backend)
  | (.ok token, backend) =>
    match client.renewed token backend with
    | (.error fault, backend) => (.error (.renewal, fault), backend)
    | (.ok token, backend) =>
      let (result, backend) := client.sent channel text token backend
      (result.mapError (.message, ·), backend)

def outward (done : Except Fault α × Session) : Except Fault α × Http.Backend :=
  (done.1, done.2.backend)

theorem post_renewed (client : Client) (channel text : String) {session : Session} {held : Token}
    (h : session.token = some held) :
    outward ((client.post channel text).run.run session) =
      match client.renewed held session.backend with
      | (.error fault, backend) => (.error fault, backend)
      | (.ok token, backend) => client.sent channel text token backend := by
  have hfresh : session.freshToken? =
      if held.isFresh session.backend.clock then some held else none := by
    simp [Session.freshToken?, h, Option.filter]
  rw [post_run, token_run, hfresh, renewed]
  by_cases hf : held.isFresh session.backend.clock
  · simp only [hf, if_true]
    rfl
  · simp only [hf, if_false, Bool.false_eq_true]
    rcases client.exchanged session.backend with ⟨fault | token, backend⟩ <;> rfl

theorem deliver_course (client : Client) (settings : Settings) (text : String) {session : Session}
    (h : session.token = none) :
    outward ((client.deliver settings text).run.run session) =
      ((client.course settings.channelId text session.backend).1.mapError (·.2),
        (client.course settings.channelId text session.backend).2) := by
  have hnone : (session.noted [.authenticating settings.serverUrl]).freshToken? = none := by
    simp [Session.freshToken?, Session.noted, h]
  rw [deliver_run, token_run, hnone, course]
  simp only [Session.noted_backend, Session.noted_token]
  rcases client.exchanged session.backend with ⟨fault | token, backend⟩
  · rfl
  · -- the session between the two steps holds the token that was exchanged
    dsimp only
    generalize hmiddle : Session.noted { backend, token := _, events := _ } _ = middle
    have hheld : middle.token = some token := by rw [← hmiddle]; rfl
    have hbackend : middle.backend = backend := by rw [← hmiddle]; rfl
    have hpost := client.post_renewed settings.channelId text hheld
    rw [hbackend] at hpost
    trans outward ((client.post settings.channelId text).run.run middle)
    · rcases (client.post settings.channelId text).run.run middle with ⟨_ | _, _⟩ <;> rfl
    · rw [hpost]
      rcases client.renewed token backend with ⟨fault | token, backend⟩
      · rfl
      · dsimp only
        rcases client.sent settings.channelId text token backend with ⟨_ | _, _⟩ <;> rfl

end Chat.Client

-- ---------------------------------------------------------------------------
-- What the stages leave
-- ---------------------------------------------------------------------------

/-- None of the requests brings a message. -/
def Chat.Wordless (receipts : List Http.Receipt) : Prop :=
  ∀ request hop reply, Http.Receipt.request request hop reply ∈ receipts →
    ∀ channel text, request.body ≠ Utf8.encode (Chat.payload channel text).write

theorem Chat.Wordless.nil : Wordless [] := fun _ _ _ hm => absurd hm List.not_mem_nil

theorem Chat.Wordless.append (h : Wordless first) (hl : Wordless later) :
    Wordless (first ++ later) := by
  intro request hop reply hm
  exact (List.mem_append.mp hm).elim (h request hop reply) (hl request hop reply)

theorem Chat.Client.Arrives.wordless {credentials : Credentials}
    (h : Arrives (Chat.tokenRequest credentials) arrived) : Chat.Wordless arrived :=
  fun _ _ _ hm => h.no_payload hm

theorem Chat.Client.exchanged_wordless (client : Client) {backend : Http.Backend}
    (h : Wordless backend.receipts) : Wordless (client.exchanged backend).2.receipts := by
  obtain ⟨arrived, ha, hr, -⟩ := client.exchanged_arrived backend
  rw [hr]
  exact h.append ha.wordless

theorem Chat.Client.renewed_wordless (client : Client) (held : Token) {backend : Http.Backend}
    (h : Wordless backend.receipts) : Wordless (client.renewed held backend).2.receipts := by
  unfold renewed
  split
  · exact h
  · exact client.exchanged_wordless h

/-- What a run that ends at a stage has not done: nothing of what comes later.
Requests that arrive for one exchange are a single chain. -/
def Stage.Leaves (run : Run) : Stage → Prop
  | .settings | .credentials => run.calls = [] ∧ run.session.backend.receipts = []
  | .commit => run.session.backend.receipts = []
  | .exchange =>
    Chat.Wordless run.session.backend.receipts ∧
      (run.session.backend.receipts = [] ∨
        ∃ request, Http.Chain 0 request run.session.backend.receipts)
  | .renewal => Chat.Wordless run.session.backend.receipts
  | .message => True

theorem Chat.Client.exchanged_leaves (client : Client) {backend : Http.Backend} {run : Run}
    (hb : backend.receipts = [])
    (hr : (client.exchanged backend).2.receipts = run.session.backend.receipts) :
    Stage.exchange.Leaves run := by
  refine ⟨?_, ?_⟩
  · rw [← hr]
    apply client.exchanged_wordless
    rw [hb]
    exact .nil
  · obtain ⟨arrived, ha, harrived, -⟩ := client.exchanged_arrived backend
    rw [hb, List.nil_append] at harrived
    rw [← hr, harrived]
    cases ha with
    | nothing => exact .inl rfl
    | chain _ hc => exact .inr ⟨_, hc⟩

theorem Chat.Client.course_leaves {client : Client} {run : Run} {backend : Http.Backend}
    (hb : backend.receipts = [])
    (h : client.course channel text backend = (.error (stage, fault), run.session.backend)) :
    stage.Leaves run := by
  unfold course at h
  rcases hx : client.exchanged backend with ⟨fault | token, middle⟩
  · rw [hx] at h
    cases h
    exact client.exchanged_leaves hb (by rw [hx])
  · rw [hx] at h
    dsimp only at h
    rcases hn : client.renewed token middle with ⟨fault | token', after⟩
    · have hfirst := client.exchanged_wordless (hb ▸ .nil : Wordless backend.receipts)
      rw [hx] at hfirst
      have hsecond := client.renewed_wordless token hfirst
      rw [hn] at h hsecond
      cases h
      exact hsecond
    · rw [hn] at h
      obtain ⟨hresult, -⟩ := Prod.mk.inj h
      cases hs : (client.sent channel text token' after).1 with
      | ok => rw [hs] at hresult; cases hresult
      | error fault =>
        rw [hs] at hresult
        cases hresult
        trivial

-- ---------------------------------------------------------------------------
-- Whole runs
-- ---------------------------------------------------------------------------

def Run.fresh (script : List Http.Reply) (clock : Nat) : Run :=
  { session := { backend := { script, clock } } }

namespace Machine

theorem length_calls_le (machine : Machine) (variant : Variant) (settings : Settings) :
    (machine.notice variant settings).2.length ≤ 1 := by
  cases variant with
  | plain => exact Nat.zero_le 1
  | developers =>
    show (Commit.read machine.place none).2.length ≤ 1
    unfold Commit.read
    split
    · exact Nat.zero_le 1
    · split
      · exact Nat.zero_le 1
      · exact le_rfl

/-- The stages of a delivery: the notice is composed and brought to the servers. -/
def deliveryCourse (machine : Machine) (client : Client) (variant : Variant) (settings : Settings)
    (script : List Http.Reply) (clock : Nat) : Except (Stage × Failure) Unit := do
  let text ← (machine.notice variant settings).1.mapError (.commit, .delivery <| .commit ·)
  (client.course settings.channelId text { script, clock }).1.mapError fun (stage, fault) =>
    (stage, .delivery fault)

/-- The stages of a run, up to the first that fails. -/
def course (machine : Machine) (variant : Variant) (chosen : Option Bytes)
    (script : List Http.Reply) (clock : Nat) : Except (Stage × Failure) Unit := do
  let settings ← (machine.loadSettings chosen).mapError (.settings, ·)
  let credentials ← (machine.credentials settings).mapError (.credentials, ·)
  machine.deliveryCourse { credentials, network := machine.network } variant settings script clock

/-- How a run ends that goes through the stages of a course. -/
structure Ends (variant : Variant) (course : Except (Stage × Failure) Unit)
    (done : Except Failure Unit × Run) : Prop where
  result : done.1 = course.mapError (·.2)
  calls : done.2.calls.length ≤ 1
  unread : variant = .plain → done.2.calls = []
  printed : done.2.printed = ""
  leaves {stage : Stage} {failure : Failure} :
    course = .error (stage, failure) → stage.Leaves done.2

theorem ends_fresh (variant : Variant) (script : List Http.Reply) (clock : Nat) {stage : Stage}
    {failure : Failure} (h : stage.Leaves (Run.fresh script clock)) :
    Ends variant (.error (stage, failure)) (.error failure, Run.fresh script clock) where
  result := rfl
  calls := Nat.zero_le 1
  unread _ := rfl
  printed := rfl
  leaves hl := by
    cases hl
    exact h

theorem delivery_ends (machine : Machine) (client : Client) (variant : Variant)
    (settings : Settings) (script : List Http.Reply) (clock : Nat) :
    Ends variant (machine.deliveryCourse client variant settings script clock)
      ((Run.deliver (Delivery.run (machine.services client) variant settings)).run.run
        (Run.fresh script clock)) := by
  have hcalls := machine.length_calls_le variant settings
  have hplain : variant = .plain → (machine.notice variant settings).2 = [] := by
    rintro rfl
    rfl
  rw [Run.deliver_run, delivery_run, deliveryCourse]
  rcases hn : machine.notice variant settings with ⟨fault | text, calls⟩
  · rw [hn] at hcalls hplain
    refine ⟨rfl, hcalls, hplain, rfl, ?_⟩
    rintro stage failure ⟨⟩
    rfl
  · rw [hn] at hcalls hplain
    dsimp only
    rw [Run.chat_run]
    generalize hc : (Run.fresh script clock |>.noted variant.announcement).called calls = composed
    have hheld : composed.session.token = none := by rw [← hc]; rfl
    have hbefore : composed.session.backend = { script, clock } := by rw [← hc]; rfl
    have hdone := client.deliver_course settings text hheld
    rw [hbefore] at hdone
    obtain ⟨hresult, hbackend⟩ := Prod.mk.inj hdone
    refine ⟨?_, ?_, ?_, ?_, ?_⟩
    · show ((client.deliver settings text).run.run composed.session).1.mapError Failure.delivery = _
      rw [hresult]
      show _ = ((client.course settings.channelId text { script, clock }).1.mapError _).mapError _
      cases (client.course settings.channelId text { script, clock }).1 <;> rfl
    · rw [← hc]
      exact hcalls
    · rw [← hc]
      exact hplain
    · rw [← hc]
      rfl
    · intro stage failure hl
      change (client.course settings.channelId text { script, clock }).1.mapError _ = _ at hl
      rcases hx : client.course settings.channelId text { script, clock } with
        ⟨⟨stage', fault⟩ | ⟨⟩, backend⟩
      · rw [hx] at hl hbackend
        cases hl
        subst hbackend
        exact Client.course_leaves rfl hx
      · rw [hx] at hl
        cases hl

theorem execute_ends (machine : Machine) (variant : Variant) (options : CommandLine.Options)
    (script : List Http.Reply) (clock : Nat) (h : options.dryRun = false) :
    Ends variant (machine.course variant options.config script clock)
      ((machine.execute variant options).run.run (Run.fresh script clock)) := by
  rw [machine.execute_run variant options _ h, course]
  cases machine.loadSettings options.config with
  | error failure => exact ends_fresh variant script clock ⟨rfl, rfl⟩
  | ok settings =>
    simp only [mapError_ok_bind]
    cases machine.credentials settings with
    | error failure => exact ends_fresh variant script clock ⟨rfl, rfl⟩
    | ok credentials =>
      simp only [mapError_ok_bind]
      exact machine.delivery_ends _ variant settings script clock

/-- Where the version control tool is missing, a run ends before it asks for
anything. -/
theorem ends_without_tool :
    let account := [(Credentials.idVariable, Utf8.ofString "id"),
      (Credentials.secretVariable, Utf8.ofString "secret")]
    let place : Commit.Place := { files := .empty, current := [Commit.toolName], searchPath := [] }
    let machine : Machine := { place, environment := account, network := .scripted }
    let options : CommandLine.Options := {}
    let course := machine.course .developers options.config [{ status := 200 }] 1000
    options.dryRun = false ∧
      course = .error (.commit, .delivery (.commit .toolMissing)) ∧
      Ends .developers course
        ((machine.execute .developers options).run.run (Run.fresh [{ status := 200 }] 1000)) := by
  intro account place machine options course
  have hs : machine.loadSettings options.config = .ok {} := rfl
  have hc : (machine.credentials {}).isOk := by decide +kernel
  refine ⟨rfl, ?_, machine.execute_ends .developers options _ 1000 rfl⟩
  show machine.course .developers options.config [{ status := 200 }] 1000 = _
  rw [Machine.course, hs, mapError_ok_bind]
  cases hcredentials : machine.credentials {} with
  | error failure =>
    rw [hcredentials] at hc
    cases hc
  | ok credentials => rfl

end Machine

end ManifestNotice
