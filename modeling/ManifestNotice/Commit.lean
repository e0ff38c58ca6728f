import ManifestNotice.FileTree
import ManifestNotice.Text.Blank

/-!
# The latest commit

Its message is what the version control tool prints. The tool is the first one
on the search path, or a chosen program.
-/

namespace ManifestNotice

namespace Commit

inductive Exit where
  | status (code : Nat)
  | signal (number : Nat)
  deriving BEq, DecidableEq, Repr

structure Outcome where
  exit : Exit := .status 0
  stdout : Bytes := []
  stderr : Bytes := []
  deriving BEq, DecidableEq, Repr

namespace Exit

def signalNames : List String :=
  ["SIGHUP", "SIGINT", "SIGQUIT", "SIGILL", "SIGTRAP", "SIGABRT", "SIGBUS", "SIGFPE", "SIGKILL",
   "SIGUSR1", "SIGSEGV", "SIGUSR2", "SIGPIPE", "SIGALRM", "SIGTERM", "SIGSTKFLT", "SIGCHLD",
   "SIGCONT", "SIGSTOP", "SIGTSTP", "SIGTTIN", "SIGTTOU", "SIGURG", "SIGXCPU", "SIGXFSZ",
   "SIGVTALRM", "SIGPROF", "SIGWINCH", "SIGIO", "SIGPWR", "SIGSYS"]

/-- A program tells the low byte of its status. -/
def ofCode (code : Nat) : Exit := .status (code % 256)

/-- Signals that leave a program alone unless it asks for them. -/
def ignoredSignals : List Nat := [17, 18, 23, 28]

/-- How a program ends that signals itself and then leaves with a status. -/
def afterSignal (number code : Nat) : Exit :=
  if number == 0 || ignoredSignals.contains number then ofCode code else .signal number

def describe : Exit → String
  | .status code => "exit status: " ++ toString code
  | .signal number =>
    let name := match number with
      | 0 => none
      | n + 1 => signalNames[n]?
    "signal: " ++ toString number ++ (name.map fun s => " (" ++ s ++ ")").getD ""

end Exit

inductive Fault where
  | toolMissing
  | unstartable (tool : Bytes) (cause : SystemError)
  | failed (exit : Exit) (complaint : String)
  | notText
  /-- What a source other than the tool gives as its reason. -/
  | told (reason : String)
  deriving BEq, DecidableEq, Repr

def Fault.message : Fault → String
  | .toolMissing => "git not found on PATH: cannot find binary path"
  | .unstartable tool cause => "spawning " ++ Utf8.decodeLossy tool ++ ": " ++ cause.message
  | .failed exit complaint => "git log exited with " ++ exit.describe ++ ": " ++ complaint
  | .notText => "commit message is not valid UTF-8"
  | .told reason => reason

def toolName : FileName := Utf8.ofString "git"

def arguments : List String := ["log", "--format=%B", "-n", "1", "HEAD"]

def endsLine (c : Char) : Bool := c == '\n' || c == '\r'

/-- The message in what the tool printed, without the line ends behind it. -/
def messageOf (outcome : Outcome) : Except Fault String :=
  if outcome.exit == .status 0 then
    match Utf8.decode? outcome.stdout with
    | some text => .ok (String.ofList (Text.dropEnd endsLine text.toList))
    | none => .error .notText
  else .error (.failed outcome.exit (Text.trim (Utf8.decodeLossy outcome.stderr)))

/-- Where programs are found: the files, the current directory and the
directories of the search path. -/
structure Place where
  files : Node Outcome
  current : FilePlace
  searchPath : List Bytes

structure Call where
  program : FilePlace
  arguments : List String
  deriving BEq, DecidableEq, Repr

namespace Place

def program (place : Place) (path : Bytes) : Except SystemError (FilePlace × Outcome) := do
  match ← place.files.resolve place.current path with
  | (spot, .file _ (some outcome)) => pure (spot, outcome)
  | _ => throw .denied

def candidates (place : Place) (name : FileName) : List Bytes :=
  place.searchPath.map (FilePath.join · name)

def which? (place : Place) (name : FileName) : Option Bytes :=
  (place.candidates name).find? fun path => (place.program path).isOk

def isPassedOver : SystemError → Bool
  | .missing | .notDirectory | .denied => true
  | _ => false

/-- The first program among the paths. If there is none, a path that may not
be run weighs more than those that lead nowhere. -/
def firstOf (place : Place) (denied : Bool) : List Bytes → Except SystemError (FilePlace × Outcome)
  | [] => .error (if denied then .denied else .missing)
  | path :: rest =>
    match place.program path with
    | .ok found => .ok found
    | .error cause =>
      if isPassedOver cause then firstOf place (denied || cause == .denied) rest
      else .error cause

/-- The program that a command names: by its path if it holds a slash, else on
the search path. -/
def start (place : Place) (command : Bytes) : Except SystemError (FilePlace × Outcome) :=
  if command.contains 0 then .error .nulInCommand
  else if command.isEmpty then .error .missing
  else if command.contains FilePath.slash then place.program command
  else if command.length > FilePath.nameLimit then .error .nameTooLong
  else place.firstOf false (place.candidates command)

end Place

/-- Runs the tool, or the chosen program in its stead. The call is told even
where the message is not to be had. -/
def read (place : Place) (chosen : Option Bytes) : Except Fault String × List Call :=
  match chosen.or (place.which? toolName) with
  | none => (.error .toolMissing, [])
  | some command =>
    match place.start command with
    | .error cause => (.error (.unstartable command cause), [])
    | .ok (program, outcome) => (messageOf outcome, [⟨program, arguments⟩])

end Commit

end ManifestNotice
