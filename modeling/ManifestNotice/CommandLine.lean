import ManifestNotice.Notice
import ManifestNotice.Text.Terminal
import ManifestNotice.Text.Utf8
import ManifestNotice.Version

/-!
# The command line

Three options, the help and the version. Arguments are bytes and are read from
the left; the value of an option may be attached to it or follow it, and then
takes effect when the next option or the end is reached.
-/

namespace ManifestNotice

namespace CommandLine

structure Options where
  verbosity : Nat := 0
  config : Option Bytes := none
  dryRun : Bool := false
  deriving BEq, DecidableEq, Repr

inductive Flag where
  | verbose
  | config
  | dryRun
  | help
  | version
  deriving BEq, DecidableEq, Repr

namespace Flag

def name : Flag → String
  | .verbose => "verbose"
  | .config => "config"
  | .dryRun => "dry-run"
  | .help => "help"
  | .version => "version"

def letter? : Flag → Option UInt8
  | .verbose => some 0x76
  | .config => some 0x63
  | .dryRun => none
  | .help => some 0x68
  | .version => some 0x56

def all : List Flag := [.verbose, .config, .dryRun, .help, .version]

def ofName? (name : Bytes) : Option Flag := all.find? fun flag => Utf8.ofString flag.name == name

def ofLetter? (letter : UInt8) : Option Flag := all.find? (·.letter? == some letter)

def valueName? : Flag → Option String
  | .config => some "FILE"
  | _ => none

def isCounted (flag : Flag) : Bool := flag == .verbose

def purpose : Flag → String
  | .verbose => "Activate verbose output (-v, -vv, etc.)"
  | .config => "Sets a custom config file"
  | .dryRun => "Print the notification instead of sending it"
  | .help => "Print help"
  | .version => "Print version"

def shown : Flag → String
  | .verbose => "--verbose..."
  | .config => "--config <FILE>"
  | flag => "--" ++ flag.name

end Flag

inductive Stop where
  | unknown (arg : String)
  | valueMissing
  | repeated (flag : Flag)
  | valueUnneeded (flag : Flag) (value : String)
  | help
  | version
  deriving BEq, DecidableEq, Repr

/-- Options so far, with a value for `config` that is yet to be settled: `some
none` while the value itself is still to come. -/
structure State where
  options : Options := {}
  pending : Option (Option Bytes) := none
  deriving BEq, DecidableEq, Repr

namespace State

/-- Gives `config` its value, once and not an empty one. -/
def setConfig (state : State) (value : Bytes) : Except Stop State :=
  if state.options.config.isSome then .error (.repeated .config)
  else if value.isEmpty then .error .valueMissing
  else .ok { state with options := { state.options with config := some value } }

def settle (state : State) : Except Stop State :=
  match state.pending with
  | none => .ok state
  | some none => .error .valueMissing
  | some (some value) => { state with pending := none }.setConfig value

/-- The count stays at what a byte can hold. -/
def count (state : State) : State :=
  { state with options := { state.options with verbosity := min 255 (state.options.verbosity + 1) } }

def take (state : State) (flag : Flag) (value : Option Bytes) : Except Stop State := do
  match flag, value with
  | .config, some value => (← state.settle).setConfig value
  | .config, none => pure { ← state.settle with pending := some none }
  | flag, some value => throw (.valueUnneeded flag (Utf8.decodeLossy value))
  | .verbose, none => pure (← state.settle).count
  | .dryRun, none => do
    let state ← state.settle
    if state.options.dryRun then throw (.repeated .dryRun)
    pure { state with options := { state.options with dryRun := true } }
  | .help, none => do
    let _ ← state.settle
    throw .help
  | .version, none => do
    let _ ← state.settle
    throw .version

end State

def dash : UInt8 := 0x2D

def equals : UInt8 := 0x3D

def splitValue (text : Bytes) : Bytes × Option Bytes :=
  match text.dropWhile (· != equals) with
  | _ :: value => (text.takeWhile (· != equals), some value)
  | [] => (text, none)

def long (state : State) (text : Bytes) : Except Stop State :=
  let (name, value) := splitValue text
  match Flag.ofName? name with
  | some flag => state.take flag value
  | none => .error (.unknown ("--" ++ Utf8.decodeLossy name))

/-- How an unknown letter is shown: one character, or the whole rest if that
does not start with one. -/
def unknownLetter (first : UInt8) (rest : Bytes) : Stop :=
  match (Utf8.item first rest).1 with
  | some c => .unknown ("-" ++ c.toString)
  | none => .unknown ("-" ++ Utf8.decodeLossy (first :: rest))

/-- Letters in one argument. What follows the letter of `config` is its
value, perhaps after an equals sign. -/
def cluster (state : State) : Bytes → Except Stop State
  | [] => .ok state
  | letter :: rest =>
    match Flag.ofLetter? letter with
    | none => .error (unknownLetter letter rest)
    | some .config =>
      match rest with
      | [] => state.take .config none
      | first :: value =>
        state.take .config (some (if first == equals then value else first :: value))
    | some flag => do cluster (← state.take flag none) rest

/-- Whatever is not an option is unknown, unless a value is still to come. -/
def plain (state : State) (arg : Bytes) : Except Stop State :=
  if state.pending == some none then .ok { state with pending := some (some arg) }
  else .error (.unknown (Utf8.decodeLossy arg))

def step (state : State) (arg : Bytes) : Except Stop State :=
  match arg with
  | a :: b :: rest =>
    if a == dash && b == dash then long state rest
    else if a == dash then cluster state (b :: rest)
    else plain state arg
  | _ => plain state arg

/-- Two dashes end the options, and nothing may follow them. -/
def steps (state : State) : List Bytes → Except Stop State
  | [] => .ok state
  | arg :: rest =>
    if arg == [dash, dash] then
      match rest with
      | [] => .ok state
      | next :: _ => .error (.unknown (Utf8.decodeLossy next))
    else do steps (← step state arg) rest

def parse (args : List Bytes) : Except Stop Options := do
  let state ← steps {} args
  pure (← state.settle).options

-- ---------------------------------------------------------------------------
-- Texts
-- ---------------------------------------------------------------------------

def summary : String := "Post the \"new nrf manifest\" notification to the team chat channel"

def helpText (program : String) : String :=
  "\n".intercalate
    [summary,
     "",
     "Usage: " ++ program ++ " [OPTIONS]",
     "",
     "Options:",
     "  -v, --verbose...     " ++ Flag.verbose.purpose,
     "  -c, --config <FILE>  " ++ Flag.config.purpose,
     "      --dry-run        " ++ Flag.dryRun.purpose,
     "  -h, --help           " ++ Flag.help.purpose,
     "  -V, --version        " ++ Flag.version.purpose,
     ""]

def versionText (program : String) : String := program ++ " " ++ version ++ "\n"

namespace Stop

def exitCode : Stop → Nat
  | .help | .version => 0
  | _ => 2

/-- What is said. Of an argument it holds what a terminal shows; in a message
that is written to a stream, sequences resume. -/
def message (program : String) (streamed : Bool) : Stop → String
  | .unknown arg =>
    "error: unexpected argument '" ++ Text.Terminal.shown streamed arg ++ "' found"
  | .valueMissing =>
    "error: a value is required for '" ++ Flag.config.shown ++ "' but none was supplied"
  | .repeated flag => "error: the argument '" ++ flag.shown ++ "' cannot be used multiple times"
  | .valueUnneeded flag value =>
    "error: unexpected value '" ++ Text.Terminal.shown streamed value ++ "' for '" ++ flag.shown ++
      "' found; no more were expected"
  | .help => helpText program
  | .version => versionText program

def headline (program : String) (streamed : Bool) (stop : Stop) : String :=
  String.ofList ((stop.message program streamed).toList.takeWhile (· != '\n'))

end Stop

end CommandLine

end ManifestNotice
