import ManifestNotice.Program
import ManifestNotice.Proofs.Chat.Delivery

/-!
# Steps of a program

What each step of a run gives, as an equation on the run. `delivery_run` splits
a delivery into the notice, which needs no server (`notice`), and the session
with the chat backend; `execute_run` puts the settings and the credentials
before it.
-/

namespace ManifestNotice

open Chat (Session Client)

-- ---------------------------------------------------------------------------
-- Runs
-- ---------------------------------------------------------------------------

namespace Run

def noted (run : Run) (events : List Log.Event) : Run :=
  { run with session := { run.session with events := run.session.events ++ events } }

def called (run : Run) (calls : List Commit.Call) : Run := { run with calls := run.calls ++ calls }

theorem noted_nil (run : Run) : run.noted [] = run := by
  simp only [noted, List.append_nil]

theorem called_nil (run : Run) : run.called [] = run := by
  simp only [called, List.append_nil]

theorem chat_run (step : Step Session α) (run : Run) :
    (chat step).run.run run =
      ((step.run.run run.session).1, { run with session := (step.run.run run.session).2 }) := rfl

theorem deliver_run (step : Step Run α) (run : Run) :
    (deliver step).run.run run =
      ((step.run.run run).1.mapError .delivery, (step.run.run run).2) := rfl

theorem chat_bind (step : Step Session α) (next : α → Step Session β) :
    chat (step >>= next) = chat step >>= fun a => chat (next a) := by
  funext run
  show (chat (step >>= next)).run.run run = (chat step >>= fun a => chat (next a)).run.run run
  rw [run_bind, chat_run, chat_run, run_bind]
  rcases step.run.run run.session with ⟨_ | _, _⟩ <;> rfl

end Run

-- ---------------------------------------------------------------------------
-- The notice
-- ---------------------------------------------------------------------------

def Variant.announcement : Variant → List Log.Event
  | .developers => [.readingCommit]
  | .plain => []

namespace Machine

/-- The notice, with the calls it takes. -/
def notice (machine : Machine) (variant : Variant) (settings : Settings) :
    Except Commit.Fault String × List Commit.Call :=
  match variant with
  | .developers =>
    let (message, calls) := Commit.read machine.place none
    (message.map (Notice.developers settings.folder settings.branch), calls)
  | .plain => (.ok (Notice.plain settings.folder), [])

theorem latestCommit_run (machine : Machine) (run : Run) :
    machine.latestCommit.run.run run =
      ((Commit.read machine.place none).1.mapError .commit,
        run.called (Commit.read machine.place none).2) := by
  unfold latestCommit
  rcases Commit.read machine.place none with ⟨_ | _, _⟩ <;> rfl

theorem compose_run (machine : Machine) (variant : Variant) (settings : Settings) (run : Run) :
    (Delivery.compose machine.sources variant settings).run.run run =
      ((machine.notice variant settings).1.mapError .commit,
        (run.noted variant.announcement).called (machine.notice variant settings).2) := by
  cases variant with
  | plain =>
    show (Except.ok _, run) = (Except.ok _, (run.noted []).called [])
    rw [Run.called_nil, Run.noted_nil]
  | developers =>
    have hnote : (machine.sources.note .readingCommit).run.run run =
        (.ok (), run.noted [.readingCommit]) := rfl
    have hlatest : machine.sources.latestCommit.run.run (run.noted [.readingCommit]) = _ :=
      machine.latestCommit_run (run.noted [.readingCommit])
    simp only [Delivery.compose, run_bind, hnote, hlatest, notice, Variant.announcement]
    rcases Commit.read machine.place none with ⟨_ | _, _⟩ <;> rfl

end Machine

-- ---------------------------------------------------------------------------
-- Deliveries
-- ---------------------------------------------------------------------------

namespace Machine

theorem delivery_run (machine : Machine) (client : Client) (variant : Variant) (settings : Settings)
    (run : Run) :
    (Delivery.run (machine.services client) variant settings).run.run run =
      let composed := (run.noted variant.announcement).called (machine.notice variant settings).2
      match (machine.notice variant settings).1 with
      | .error fault => (.error (.commit fault), composed)
      | .ok text => (Run.chat (client.deliver settings text)).run.run composed := by
  have hdeliver (text : String) : Run.chat (client.deliver settings text) = (do
      Run.chat (Session.note (.authenticating settings.serverUrl))
      Run.chat client.authenticate
      Run.chat (Session.note (.sendingNotice settings.channelId))
      Run.chat (client.post settings.channelId text)
      Run.chat (Session.note .noticeSent)) := by
    simp only [Client.deliver, Run.chat_bind]
  simp only [Delivery.run, run_bind, services, compose_run, hdeliver]
  cases (machine.notice variant settings).1 <;> rfl

theorem execute_run (machine : Machine) (variant : Variant) (options : CommandLine.Options)
    (run : Run) (h : options.dryRun = false) :
    (machine.execute variant options).run.run run =
      match machine.loadSettings options.config with
      | .error failure => (.error failure, run)
      | .ok settings =>
        match machine.credentials settings with
        | .error failure => (.error failure, run)
        | .ok credentials =>
          (Run.deliver (Delivery.run (machine.services { credentials, network := machine.network })
            variant settings)).run.run run := by
  simp only [execute, run_bind, run_ofExcept]
  cases machine.loadSettings options.config with
  | error failure => rfl
  | ok settings =>
    simp only [h, Bool.false_eq_true, if_false, run_bind, run_ofExcept]
    cases machine.credentials settings <;> rfl

end Machine

end ManifestNotice
