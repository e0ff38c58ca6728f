import ManifestNotice.Chat.Client
import ManifestNotice.CommandLine
import ManifestNotice.Log.Filter
import ManifestNotice.Settings.Load

/-!
# The programs

From the command line to the end: options are parsed, settings are loaded, and
the notice is printed or delivered. Settings come first, then the credentials,
then the commit; nothing is asked for that an earlier fault makes useless.
-/

namespace ManifestNotice

structure Machine where
  place : Commit.Place
  environment : Environment
  network : Http.Network

structure Run where
  session : Chat.Session
  calls : List Commit.Call := []
  printed : String := ""

inductive Failure where
  | settings (fault : SettingsFault)
  | credentials (fault : MissingVariable)
  | delivery (fault : Fault)
  deriving BEq, DecidableEq, Repr

def Failure.message : Failure → String
  | .settings fault => fault.message
  | .credentials fault => fault.message
  | .delivery fault => fault.message

abbrev Task := ExceptT Failure (StateM Run)

namespace Run

/-- A step of the chat session as a step of the run. -/
def chat {α : Type} (step : Step Chat.Session α) : Step Run α := ExceptT.mk do
  let run ← get
  let (result, session) := step.run.run run.session
  set { run with session }
  pure result

/-- A step as a part of the whole task. -/
def deliver {α : Type} (step : Step Run α) : Task α := ExceptT.mk do
  return (← step.run).mapError .delivery

def print (line : String) : Task Unit :=
  modify fun run => { run with printed := run.printed ++ line ++ "\n" }

end Run

namespace Machine

def latestCommit (machine : Machine) : Step Run String := do
  let (result, calls) := Commit.read machine.place none
  modify fun run => { run with calls := run.calls ++ calls }
  match result with
  | .ok message => pure message
  | .error cause => throw (.commit cause)

def sources (machine : Machine) : Sources Run where
  latestCommit := machine.latestCommit
  note event := Run.chat (Chat.Session.note event)

def services (machine : Machine) (client : Chat.Client) : Services Run where
  toSources := machine.sources
  authenticate := Run.chat client.authenticate
  post channel text := Run.chat (client.post channel text)

def loadSettings (machine : Machine) (chosen : Option Bytes) : Except Failure Settings :=
  (Settings.load machine.place.files machine.place.current chosen).mapError .settings

def credentials (machine : Machine) (settings : Settings) : Except Failure Credentials :=
  (Credentials.ofEnvironment settings machine.environment).mapError .credentials

def execute (machine : Machine) (variant : Variant) (options : CommandLine.Options) : Task Unit := do
  let settings ← machine.loadSettings options.config
  if options.dryRun then
    let body ← Run.deliver (Delivery.compose machine.sources variant settings)
    Run.print body
  else
    let credentials ← machine.credentials settings
    let client : Chat.Client := { credentials, network := machine.network }
    Run.deliver (Delivery.run (machine.services client) variant settings)

end Machine

namespace Program

def filterVariable : String := "RUST_LOG"

structure Ending where
  exit : Nat
  stdout : String := ""
  /-- The first line of what it says went wrong. -/
  complaint : String := ""
  logged : List Log.Event := []
  run : Run

def firstLine (text : String) : String := String.ofList (text.toList.takeWhile (· != '\n'))

def filter (machine : Machine) (options : CommandLine.Options) : Log.Filter :=
  Log.Filter.choose options.verbosity (machine.environment.text? filterVariable)

def perform (machine : Machine) (variant : Variant) (options : CommandLine.Options) (start : Run) :
    Ending :=
  let (result, run) := (machine.execute variant options).run.run start
  let logged := (filter machine options).shown run.session.events
  match result with
  | .ok () => { exit := 0, stdout := run.printed, logged, run }
  | .error failure =>
    { exit := 1
      stdout := run.printed
      complaint := firstLine ("Error: " ++ failure.message)
      logged
      run }

def run (machine : Machine) (variant : Variant) (arguments : List Bytes) (start : Run) : Ending :=
  match CommandLine.parse arguments with
  | .ok options => perform machine variant options start
  | .error stop =>
    if stop.exitCode == 0 then
      { exit := 0, stdout := stop.message variant.program true, run := start }
    else { exit := stop.exitCode, complaint := stop.headline variant.program true, run := start }

end Program

end ManifestNotice
