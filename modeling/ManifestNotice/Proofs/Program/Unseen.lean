import ManifestNotice.Proofs.Chat.Unseen
import ManifestNotice.Proofs.Program.Stages

/-!
# Secrets of a program

Two runs of a program with different accounts, whose servers grant different
tokens, cannot be told apart without the authorization of their requests
(`secrets_unseen`). The account has to be there in both.
-/

namespace ManifestNotice

open Chat (Session Client)

/-- Both parts of an account are there, and not blank. -/
def Environment.hasAccount (env : Environment) : Bool :=
  [Credentials.idVariable, Credentials.secretVariable].all fun name =>
    (env.text? name).any fun value => !(Text.trim value).isEmpty

theorem Credentials.require_ok {lookup : String → Option String}
    (h : (lookup name).any fun value => !(Text.trim value).isEmpty) :
    ∃ value, require lookup name = .ok value := by
  cases hl : lookup name with
  | none => simp [hl] at h
  | some value =>
    have hblank : (Text.trim value).isEmpty = false := by simpa [hl] using h
    exact ⟨value, by rw [require, hl]; simp only [hblank, Bool.false_eq_true, if_false]⟩

-- ---------------------------------------------------------------------------
-- Runs
-- ---------------------------------------------------------------------------

structure Run.Alike (a b : Run) : Prop where
  session : a.session.Alike b.session
  calls : a.calls = b.calls
  printed : a.printed = b.printed

namespace Run

section
variable {a b : Run}

theorem Alike.noted (h : a.Alike b) (events : List Log.Event) :
    (a.noted events).Alike (b.noted events) where
  session := h.session.noted events
  calls := h.calls
  printed := h.printed

theorem Alike.called (h : a.Alike b) (calls : List Commit.Call) :
    (a.called calls).Alike (b.called calls) where
  session := h.session
  calls := congrArg (· ++ calls) h.calls
  printed := h.printed

theorem chat_alike {step other : Step Session α} (h : a.Alike b)
    (hs : AgreeIn Session.Alike Eq (step.run.run a.session) (other.run.run b.session)) :
    AgreeIn Alike Eq ((chat step).run.run a) ((chat other).run.run b) := by
  rw [chat_run, chat_run]
  exact ⟨hs.1, hs.2, h.calls, h.printed⟩

theorem deliver_alike {step other : Step Run α}
    (h : AgreeIn Alike Eq (step.run.run a) (other.run.run b)) :
    AgreeIn Alike Eq ((deliver step).run.run a) ((deliver other).run.run b) := by
  rw [deliver_run, deliver_run]
  exact ⟨h.1.mapError _, h.2⟩

theorem print_alike (h : a.Alike b) (line : String) :
    AgreeIn Alike Eq ((print line).run.run a) ((print line).run.run b) :=
  ⟨.refl (.ok ()), h.session, h.calls, congrArg (· ++ line ++ "\n") h.printed⟩

end

theorem fresh_alike (h : List.Forall₂ Chat.AlikeReplies script other) (clock : Nat) :
    (fresh script clock).Alike (fresh other clock) where
  session := { backend := ⟨h, rfl, rfl⟩, token := .none, events := rfl }
  calls := rfl
  printed := rfl

def seen (done : Except Failure Unit × Run) :
    Except Failure Unit × String × List Commit.Call × List Http.Trail × List Log.Event :=
  (done.1, done.2.printed, done.2.calls, done.2.session.seen)

end Run

-- ---------------------------------------------------------------------------
-- Programs
-- ---------------------------------------------------------------------------

namespace Machine

section
variable (machine : Machine) (environment : Environment) {a b : Run}

theorem compose_alike (h : a.Alike b) (variant : Variant) (settings : Settings) :
    AgreeIn Run.Alike Eq ((Delivery.compose machine.sources variant settings).run.run a)
      ((Delivery.compose ({ machine with environment } : Machine).sources variant settings).run.run
        b) := by
  rw [compose_run, compose_run]
  exact ⟨.refl _, (h.noted _).called _⟩

theorem delivery_alike {client other : Client} (hc : client.Alike other) (h : a.Alike b)
    (variant : Variant) (settings : Settings) :
    AgreeIn Run.Alike Eq
      ((Delivery.run (machine.services client) variant settings).run.run a)
      ((Delivery.run (({ machine with environment } : Machine).services other) variant
        settings).run.run b) := by
  rw [delivery_run, delivery_run]
  have hnotice : ({ machine with environment } : Machine).notice variant settings =
      machine.notice variant settings := rfl
  rw [hnotice]
  have hcomposed := (h.noted variant.announcement).called (machine.notice variant settings).2
  cases (machine.notice variant settings).1 with
  | error fault => exact ⟨.error _, hcomposed⟩
  | ok text =>
    exact Run.chat_alike hcomposed (Client.deliver_alike hc hcomposed.session settings text)

theorem credentials_of_account (settings : Settings) (h : machine.environment.hasAccount) :
    ∃ credentials, machine.credentials settings = .ok credentials ∧
      credentials.serverUrl = settings.serverUrl := by
  have hthere := List.all_eq_true.mp h
  obtain ⟨clientId, hid⟩ := Credentials.require_ok (hthere Credentials.idVariable (by simp))
  obtain ⟨clientSecret, hsecret⟩ :=
    Credentials.require_ok (hthere Credentials.secretVariable (by simp))
  refine ⟨{ clientId, clientSecret, serverUrl := settings.serverUrl }, ?_, rfl⟩
  rw [credentials, Credentials.ofEnvironment, Credentials.ofLookup, hid, hsecret]
  rfl

theorem execute_alike (hm : machine.environment.hasAccount) (he : environment.hasAccount)
    (h : a.Alike b) (variant : Variant) (options : CommandLine.Options) :
    AgreeIn Run.Alike Eq ((machine.execute variant options).run.run a)
      ((({ machine with environment } : Machine).execute variant options).run.run b) := by
  refine AgreeIn.bind (.ofExcept (.refl (machine.loadSettings options.config)) h) ?_
  rintro settings _ a b rfl h
  cases options.dryRun with
  | true =>
    refine AgreeIn.bind (Run.deliver_alike (machine.compose_alike environment h variant settings)) ?_
    rintro body _ a b rfl h
    exact Run.print_alike h body
  | false =>
    obtain ⟨credentials, hc, hserver⟩ := machine.credentials_of_account settings hm
    obtain ⟨others, ho, hsame⟩ :=
      ({ machine with environment } : Machine).credentials_of_account settings he
    simp only [Bool.false_eq_true, if_false, hc, ho]
    have hclients : Client.Alike { credentials, network := machine.network }
        { credentials := others, network := machine.network } := ⟨rfl, hserver.trans hsame.symm⟩
    exact Run.deliver_alike (machine.delivery_alike environment hclients h variant settings)

end

end Machine

/-- What is said of servers that answer with one script or the other: neither a
program nor the calls of a client come to anything different, whatever the
account, but for the authorization of requests. -/
structure SecretsUnseen (script other : List Http.Reply) (clock : Nat) : Prop where
  execute (machine : Machine) (environment : Environment) (variant : Variant)
      (options : CommandLine.Options) :
    machine.environment.hasAccount → environment.hasAccount →
      Run.seen ((machine.execute variant options).run.run (Run.fresh script clock)) =
        Run.seen ((({ machine with environment } : Machine).execute variant options).run.run
          (Run.fresh other clock))
  trace (client : Client) (credentials : Credentials) (actions : List Chat.Action) :
    client.credentials.serverUrl = credentials.serverUrl →
      (client.trace actions { backend := { script, clock } }).map Client.observed =
        (({ client with credentials } : Client).trace actions
          { backend := { script := other, clock } }).map Client.observed

theorem secrets_unseen {script other : List Http.Reply}
    (h : List.Forall₂ Chat.AlikeReplies script other) (clock : Nat) :
    SecretsUnseen script other clock where
  execute machine environment variant options hm he := by
    obtain ⟨hresult, hrun⟩ :=
      machine.execute_alike environment hm he (Run.fresh_alike h clock) variant options
    exact Prod.ext hresult.eq (Prod.ext hrun.printed (Prod.ext hrun.calls hrun.session.seen))
  trace client credentials actions hserver :=
    @Client.trace_observed client { client with credentials } _ _ ⟨rfl, hserver⟩
      (Run.fresh_alike h clock).session actions

/-- Another account, another token. -/
theorem unseen_with_other_account :
    let account (id secret : String) : Environment :=
      [(Credentials.idVariable, Utf8.ofString id), (Credentials.secretVariable, Utf8.ofString secret)]
    let environment := account "other" "hidden"
    let place : Commit.Place := { files := .empty, current := [Commit.toolName], searchPath := [] }
    let machine : Machine := { place, environment := account "id" "secret", network := fun _ => .answered }
    let granted (token : String) : Http.Reply :=
      { status := 200, body := Utf8.ofString ("\x7b\"access_token\":\"" ++ token ++ "\"\x7d") }
    let script := [granted "t", { status := 200 }]
    let other := [granted "u", { status := 200 }]
    List.Forall₂ Chat.AlikeReplies script other ∧ machine.environment.hasAccount ∧ environment.hasAccount ∧
      Run.seen ((machine.execute .plain {}).run.run (Run.fresh script 1000)) =
        Run.seen ((({ machine with environment } : Machine).execute .plain {}).run.run
          (Run.fresh other 1000)) := by
  intro account environment place machine granted script other
  have hsame : Chat.SameGrant (granted "t").body (granted "u").body :=
    ⟨⟨"t", none⟩, ⟨"u", none⟩, eq_ok_of_toOption (by decide +kernel),
      eq_ok_of_toOption (by decide +kernel), rfl, by decide +kernel, by decide +kernel⟩
  have halike : List.Forall₂ Chat.AlikeReplies script other :=
    .cons (.success rfl hsame) (.cons (.same _) .nil)
  have hm : machine.environment.hasAccount := by decide +kernel
  have he : environment.hasAccount := by decide +kernel
  exact ⟨halike, hm, he,
    (secrets_unseen halike 1000).execute machine environment .plain {} hm he⟩

end ManifestNotice
