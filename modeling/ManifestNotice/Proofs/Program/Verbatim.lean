import ManifestNotice.Proofs.Json.Writing
import ManifestNotice.Proofs.Program.Commit
import ManifestNotice.Proofs.Program.Stages

/-!
# Verbatim delivery

What a run brings to the servers, down to the bytes: the body of its message is
a JSON text that stands for one value only, and that value holds the channel
and the notice character by character (`delivers_verbatim`).
-/

namespace ManifestNotice

open Chat (Client Session)
open Http (Receipt)

-- ---------------------------------------------------------------------------
-- Bodies
-- ---------------------------------------------------------------------------

namespace Chat

theorem payload_written (channel text : String) : Json.Grammar.Written (payload channel text) := by
  refine Json.Grammar.written_object ?_
  simp only [List.mem_cons, List.not_mem_nil, or_false, forall_eq_or_imp, forall_eq]
  refine ⟨Json.Grammar.written_string _, Json.Grammar.written_object ?_⟩
  simp only [List.mem_cons, List.not_mem_nil, or_false, forall_eq_or_imp, forall_eq]
  exact ⟨Json.Grammar.written_string _, Json.Grammar.written_string _⟩

namespace Client

theorem Arrives.bodies (h : Arrives request arrived) (hm : .request other hop reply ∈ arrived) :
    ∃ built, request = .ok built ∧ (other.body = built.body ∨ 0 < hop ∧ other.body = []) := by
  cases h with
  | nothing => cases hm
  | chain hb hc =>
    refine ⟨_, hb, ?_⟩
    cases hop with
    | zero => exact .inl (by rw [hc.eq_of_mem_zero hm])
    | succ hop => exact (hc.body hm).imp_right fun h => ⟨hop.succ_pos, h⟩

section
variable {client : Client} {settings : Settings} {channel text : String} {before after : Session}

theorem Drawn.bodies {result : Except Fault Token} (h : client.Drawn before result after arrived)
    (hm : .request request hop reply ∈ arrived) :
    request.body = tokenForm ∨ 0 < hop ∧ request.body = [] := by
  obtain ⟨built, ht, hb⟩ := h.arrives.bodies hm
  exact hb.imp_left fun h => h.trans (tokenRequest_eq_ok ht).2

theorem Posted.bodies (h : client.Posted channel text before result after arrived later)
    (hm : .request request hop reply ∈ arrived ++ later) :
    request.body = tokenForm ∨ 0 < hop ∧ request.body = [] ∨
      request.body = payloadBody channel text := by
  cases h with
  | undrawn h =>
    rw [List.append_nil] at hm
    exact (h.bodies hm).imp_right .inl
  | sent h ha =>
    rcases List.mem_append.mp hm with hm | hm
    · exact (h.bodies hm).imp_right .inl
    · obtain ⟨built, ht, hb⟩ := ha.arrives.bodies hm
      rcases hb with hb | hb
      · exact .inr (.inr (hb.trans (messageRequest_body ht)))
      · exact .inr (.inl hb)

theorem Delivered.bodies (h : client.Delivered settings text before result after arrived)
    (hm : .request request hop reply ∈ arrived) :
    request.body = tokenForm ∨ 0 < hop ∧ request.body = [] ∨
      request.body = payloadBody settings.channelId text := by
  cases h with
  | undrawn h => exact (h.bodies hm).imp_right .inl
  | posted h hp =>
    rcases List.mem_append.mp hm with hm | hm
    · exact (h.bodies hm).imp_right .inl
    · exact hp.bodies hm

theorem Posted.brings (h : client.Posted channel text before (.ok ()) after arrived later) :
    ∃ request reply, Receipt.request request 0 reply ∈ arrived ++ later ∧
      request.body = payloadBody channel text := by
  obtain ⟨-, _, message, _, _, _, hm, hc, ha, -⟩ := h.success
  cases hc with
  | lost => cases ha
  | tunnel => cases ha
  | last => exact ⟨_, _, List.mem_append_right _ List.mem_cons_self, messageRequest_body hm⟩
  | next => exact ⟨_, _, List.mem_append_right _ List.mem_cons_self, messageRequest_body hm⟩

theorem Delivered.brings (h : client.Delivered settings text before (.ok ()) after arrived) :
    ∃ request reply, Receipt.request request 0 reply ∈ arrived ∧
      request.body = payloadBody settings.channelId text := by
  obtain ⟨_, _, _, _, _, rfl, -, hp⟩ := h.success
  obtain ⟨request, reply, hm, hb⟩ := hp.brings
  exact ⟨request, reply, List.mem_append_right _ hm, hb⟩

end

end Client

end Chat

-- ---------------------------------------------------------------------------
-- Whole runs
-- ---------------------------------------------------------------------------

namespace Machine

/-- The notice that a run composes; the developers' one quotes the message that
the version control tool printed. -/
inductive Composes (machine : Machine) (settings : Settings) : Variant → String → Prop
  | plain : Composes machine settings .plain (Notice.plain settings.folder)
  | developers {command program outcome printed message} :
      machine.place.which? Commit.toolName = some command →
      machine.place.start command = .ok (program, outcome) →
      outcome.exit = .status 0 →
      outcome.stdout = Utf8.ofString printed →
      Commit.IsMessage printed message →
      Composes machine settings .developers
        (Notice.developers settings.folder settings.branch message)

theorem composes_of_notice (h : (notice machine variant settings).1 = .ok text) :
    machine.Composes settings variant text := by
  cases variant with
  | plain =>
    cases h
    exact .plain
  | developers =>
    change (Commit.read machine.place none).1.map _ = _ at h
    cases hr : (Commit.read machine.place none).1 with
    | error fault =>
      rw [hr] at h
      cases h
    | ok message =>
      rw [hr] at h
      cases h
      obtain ⟨command, program, outcome, hw, hs, hm⟩ := Commit.read_eq_ok hr
      obtain ⟨hexit, printed, hp, hmessage⟩ := Commit.messageOf_eq_ok hm
      exact .developers hw hs hexit hp hmessage

/-- The request brings the notice of the run, and nothing else can be read in
it. -/
def Brings (machine : Machine) (variant : Variant) (chosen : Option Bytes)
    (request : Http.Request) : Prop :=
  ∃ settings notice text,
    machine.loadSettings chosen = .ok settings ∧
    machine.Composes settings variant notice ∧
    request.body = Utf8.ofString text ∧
    ∀ value, Json.Grammar.IsText value text.toList ↔
      value = .object
        [("channel".toList, .string ("id:" ++ settings.channelId).toList),
         ("content".toList, .object
           [("className".toList, .string "ChatMessage.Text".toList),
            ("text".toList, .string notice.toList)])]

theorem brings_of_payload (hs : loadSettings machine chosen = .ok settings)
    (hn : (machine.notice variant settings).1 = .ok text)
    (hb : request.body = Chat.payloadBody settings.channelId text) :
    machine.Brings variant chosen request := by
  refine ⟨settings, text, String.ofList (Chat.payload settings.channelId text).write, hs,
    composes_of_notice hn, ?_, ?_⟩
  · rw [hb, Utf8.ofString, String.toList_ofList, Chat.payloadBody]
  · intro value
    rw [String.toList_ofList, (Chat.payload_written settings.channelId text).isText_iff,
      Chat.payload, String.toList_append]

/-- What is said of a run: every body that arrives is that of a request for a
token, or a redirect took it away, or it is the notice word for word; and if the
run succeeds, its notice has arrived. -/
structure Delivers (machine : Machine) (variant : Variant) (chosen : Option Bytes)
    (done : Except Failure Unit × Run) : Prop where
  bodies {request : Http.Request} {hop : Nat} {reply : Http.Reply} :
    Receipt.request request hop reply ∈ done.2.session.backend.receipts →
      request.body = Chat.tokenForm ∨ 0 < hop ∧ request.body = [] ∨
        machine.Brings variant chosen request
  success : done.1 = .ok () →
    ∃ request reply, Receipt.request request 0 reply ∈ done.2.session.backend.receipts ∧
      machine.Brings variant chosen request

theorem delivers_nothing {failure : Failure} {run : Run} (h : run.session.backend.receipts = []) :
    Delivers machine variant chosen (.error failure, run) where
  bodies hm := by
    rw [h] at hm
    cases hm
  success hok := by cases hok

theorem delivery_delivers (machine : Machine) (client : Client) (script : List Http.Reply)
    (clock : Nat) (hs : machine.loadSettings chosen = .ok settings) :
    Delivers machine variant chosen
      ((Run.deliver (Delivery.run (machine.services client) variant settings)).run.run
        (Run.fresh script clock)) := by
  rw [Run.deliver_run, delivery_run]
  cases hn : (machine.notice variant settings).1 with
  | error fault => exact delivers_nothing rfl
  | ok text =>
    generalize hc : (Run.fresh script clock |>.noted variant.announcement).called
      (machine.notice variant settings).2 = composed
    have hnone : composed.session.backend.receipts = [] := by rw [← hc]; rfl
    dsimp only
    rw [Run.chat_run]
    obtain ⟨arrived, hd⟩ := client.deliver_delivered settings text composed.session
    have hr := hd.receipts
    rw [hnone, List.nil_append] at hr
    constructor
    · intro request hop reply hm
      change _ ∈ ((client.deliver settings text).run.run composed.session).2.backend.receipts at hm
      rw [hr] at hm
      exact (hd.bodies hm).imp_right (·.imp_right fun hb => brings_of_payload hs hn hb)
    · intro hok
      change ((client.deliver settings text).run.run composed.session).1.mapError _ = _ at hok
      show ∃ request reply, Receipt.request request 0 reply ∈
        ((client.deliver settings text).run.run composed.session).2.backend.receipts ∧ _
      cases hresult : ((client.deliver settings text).run.run composed.session).1 with
      | error fault =>
        rw [hresult] at hok
        cases hok
      | ok =>
        rw [hresult] at hd
        obtain ⟨request, reply, hm, hb⟩ := hd.brings
        exact ⟨request, reply, hr ▸ hm, brings_of_payload hs hn hb⟩

theorem delivers_verbatim (machine : Machine) (variant : Variant) (options : CommandLine.Options)
    (script : List Http.Reply) (clock : Nat) (h : options.dryRun = false) :
    Delivers machine variant options.config
      ((machine.execute variant options).run.run (Run.fresh script clock)) := by
  rw [machine.execute_run variant options _ h]
  cases hs : machine.loadSettings options.config with
  | error failure => exact delivers_nothing rfl
  | ok settings =>
    dsimp only
    cases machine.credentials settings with
    | error failure => exact delivers_nothing rfl
    | ok credentials => exact machine.delivery_delivers _ script clock hs

/-- A message with quotes and line ends arrives. -/
theorem delivers_quoted_message :
    let outcome : Commit.Outcome := { stdout := Utf8.ofString "fix \"a\"\nfor b\r\n" }
    let folder : Node Commit.Outcome := .directory [(Commit.toolName, .file [] (some outcome))]
    let bin := Utf8.ofString "bin"
    let place : Commit.Place :=
      { files := .directory [(bin, folder)], current := [Commit.toolName]
        searchPath := [FilePath.slash :: bin] }
    let account := [(Credentials.idVariable, Utf8.ofString "id"),
      (Credentials.secretVariable, Utf8.ofString "secret")]
    let machine : Machine := { place, environment := account, network := fun _ => .answered }
    let grant := Utf8.ofString "\x7b\"access_token\":\"t\"\x7d"
    let script : List Http.Reply := [{ status := 200, body := grant }, { status := 200 }]
    let options : CommandLine.Options := {}
    let done := (machine.execute .developers options).run.run (Run.fresh script 1000)
    options.dryRun = false ∧ done.1 = .ok () ∧
      ∃ request reply, Receipt.request request 0 reply ∈ done.2.session.backend.receipts ∧
        machine.Brings .developers options.config request := by
  intro outcome folder bin place account machine grant script options done
  let credentials : Credentials := ⟨"id", "secret", ({} : Settings).serverUrl⟩
  let client : Client := { credentials, network := machine.network }
  let text := Notice.developers ({} : Settings).folder ({} : Settings).branch "fix \"a\"\nfor b"
  have hs : machine.loadSettings options.config = .ok {} := rfl
  have hc : machine.credentials {} = .ok credentials := eq_ok_of_toOption (by decide +kernel)
  have hholds : place.Holds (FilePath.slash :: bin) [bin, Commit.toolName] outcome :=
    Commit.Place.holds_below (by decide +kernel) rfl rfl
  obtain ⟨hsearchable, hfirst⟩ := Commit.Place.first_of_only rfl hholds
  have hprinted : Utf8.decode? outcome.stdout = some "fix \"a\"\nfor b\r\n" :=
    Utf8.decode?_eq_some_iff.mpr rfl
  have hread : (Commit.read place none).1 = .ok "fix \"a\"\nfor b" := by
    rw [Commit.read_of_first hsearchable hfirst, Commit.messageOf, hprinted]
    decide +kernel
  have hn : (machine.notice .developers {}).1 = .ok text := by
    show (Commit.read place none).1.map _ = _
    rw [hread]
    rfl
  have hcourse : (client.course ({} : Settings).channelId text { script, clock := 1000 }).1 =
      .ok () := eq_ok_of_toOption (by decide +kernel)
  have hok : done.1 = .ok () := by
    show ((machine.execute .developers options).run.run (Run.fresh script 1000)).1 = _
    rw [machine.execute_run .developers options _ rfl, hs]
    dsimp only
    rw [hc]
    dsimp only
    rw [(machine.delivery_ends client .developers {} script 1000).result, deliveryCourse, hn,
      mapError_ok_bind, hcourse]
    rfl
  exact ⟨rfl, hok, (machine.delivers_verbatim .developers options script 1000 rfl).success hok⟩

end Machine

end ManifestNotice
