import ManifestNotice.Proofs.CommandLine.Verbosity
import ManifestNotice.Proofs.Log.Filter
import ManifestNotice.Proofs.Program.Steps

/-!
# Logging

How verbose a program is to be, on its command line and in its environment,
decides which events are shown and nothing else (`logging_shows`).
-/

namespace ManifestNotice

/-- Values of variables, but for the one that chooses what is logged. -/
def Environment.SameButFilter (environment other : Environment) : Prop :=
  ∀ name, name ≠ Program.filterVariable → environment.text? name = other.text? name

namespace CommandLine

def Options.quiet (options : Options) : Options := { options with verbosity := 0 }

/-- The arguments ask for the same, or stop for the same reason; how verbose the
program is to be may differ. -/
def SameButVerbosity (arguments others : List Bytes) : Prop :=
  (parse arguments).map Options.quiet = (parse others).map Options.quiet

def verbosityOf (arguments : List Bytes) : Nat :=
  match parse arguments with
  | .ok options => options.verbosity
  | .error _ => 0

theorem sameButVerbosity_requests {requests others : List Occurrence}
    (h : ∀ o ∈ requests, o.isRequest) (ho : ∀ o ∈ others, o.isRequest) (args : List Bytes) :
    SameButVerbosity (requests.flatMap Occurrence.written ++ args)
      (others.flatMap Occurrence.written ++ args) := by
  rw [SameButVerbosity, parse_louder h, parse_louder ho]
  cases parse args <;> rfl

end CommandLine

open CommandLine (SameButVerbosity verbosityOf)

namespace Program

def chosenFilter? (environment : Environment) : Option Log.Filter :=
  (environment.text? filterVariable).bind Log.Filter.parse?

def outcome (machine : Machine) (variant : Variant) (arguments : List Bytes) (start : Run) :
    Except CommandLine.Stop (Except Failure Unit × Run) :=
  (CommandLine.parse arguments).map fun options => (machine.execute variant options).run.run start

/-- Two runs that differ in what they show of what they log. -/
structure ShowsApart (machine other : Machine) (variant : Variant) (arguments others : List Bytes)
    (start : Run) (ending ending' : Ending) : Prop where
  outcome : outcome machine variant arguments start = outcome other variant others start
  exit : ending.exit = ending'.exit
  stdout : ending.stdout = ending'.stdout
  complaint : ending.complaint = ending'.complaint
  /-- Calls, requests and events, shown or not. -/
  run : ending.run = ending'.run
  /-- Without a filter that can be read, the count decides. -/
  counted : chosenFilter? machine.environment = none → chosenFilter? other.environment = none →
    verbosityOf arguments ≤ verbosityOf others → ending.logged.Sublist ending'.logged
  /-- With one, it does not matter. -/
  chosen : ∀ filter, chosenFilter? machine.environment = some filter →
    chosenFilter? other.environment = some filter → ending.logged = ending'.logged

end Program

-- ---------------------------------------------------------------------------
-- What a run looks at
-- ---------------------------------------------------------------------------

namespace Machine

variable (machine : Machine) {environment : Environment}

theorem credentials_sameButFilter (h : machine.environment.SameButFilter environment)
    (settings : Settings) :
    ({ machine with environment } : Machine).credentials settings =
      machine.credentials settings := by
  have hid := h Credentials.idVariable (by decide)
  have hsecret := h Credentials.secretVariable (by decide)
  simp only [credentials, Credentials.ofEnvironment, Credentials.ofLookup, Credentials.require,
    hid, hsecret]

theorem execute_quiet (variant : Variant) (options : CommandLine.Options) :
    machine.execute variant options.quiet = machine.execute variant options := rfl

theorem execute_sameButFilter (h : machine.environment.SameButFilter environment)
    (variant : Variant) (options : CommandLine.Options) :
    ({ machine with environment } : Machine).execute variant options =
      machine.execute variant options := by
  simp only [execute, machine.credentials_sameButFilter h]
  rfl

end Machine

-- ---------------------------------------------------------------------------
-- Two runs
-- ---------------------------------------------------------------------------

namespace Program

section
variable {machine : Machine} {environment : Environment} {variant : Variant}
  {arguments others : List Bytes} {options other : CommandLine.Options} {shown : Log.Filter}

theorem perform_logged (machine : Machine) (variant : Variant) (options : CommandLine.Options)
    (start : Run) :
    (perform machine variant options start).logged =
      (filter machine options).shown
        ((machine.execute variant options).run.run start).2.session.events := by
  unfold perform
  rcases (machine.execute variant options).run.run start with ⟨_ | _, _⟩ <;> rfl

theorem run_logged (start : Run) (h : CommandLine.parse arguments = .ok options) :
    (run machine variant arguments start).logged =
      (filter machine options).shown
        ((machine.execute variant options).run.run start).2.session.events := by
  rw [run, h]
  exact perform_logged machine variant options start

theorem perform_of_execute_eq {start : Run}
    (h : ({ machine with environment } : Machine).execute variant other =
      machine.execute variant options) :
    perform { machine with environment } variant other start =
      { perform machine variant options start with
        logged := (filter { machine with environment } other).shown
          ((machine.execute variant options).run.run start).2.session.events } := by
  unfold perform
  rw [h]
  rcases (machine.execute variant options).run.run start with ⟨_ | _, _⟩ <;> rfl

theorem filter_of_chosen (h : chosenFilter? machine.environment = some shown)
    (options : CommandLine.Options) : filter machine options = shown :=
  Log.Filter.choose_of_parse? h options.verbosity

theorem shows_stopped {stop : CommandLine.Stop} (start : Run)
    (ha : CommandLine.parse arguments = .error stop) (ho : CommandLine.parse others = .error stop) :
    ShowsApart machine { machine with environment } variant arguments others start
      (run machine variant arguments start)
      (run { machine with environment } variant others start) := by
  have hsame : run { machine with environment } variant others start =
      run machine variant arguments start := by rw [run, run, ha, ho]
  rw [hsame]
  refine ⟨?_, rfl, rfl, rfl, rfl, fun _ _ _ => .refl _, fun _ _ _ => rfl⟩
  rw [outcome, outcome, ha, ho]
  rfl

theorem shows_performed (start : Run) (ha : CommandLine.parse arguments = .ok options)
    (ho : CommandLine.parse others = .ok other)
    (h : ({ machine with environment } : Machine).execute variant other =
      machine.execute variant options) :
    ShowsApart machine { machine with environment } variant arguments others start
      (run machine variant arguments start)
      (run { machine with environment } variant others start) := by
  have hfirst : run machine variant arguments start = perform machine variant options start := by
    rw [run, ha]
  have hsecond : run { machine with environment } variant others start =
      perform { machine with environment } variant other start := by rw [run, ho]
  rw [hfirst, hsecond, perform_of_execute_eq h]
  refine ⟨?_, rfl, rfl, rfl, rfl, ?_, ?_⟩
  · rw [outcome, outcome, ha, ho]
    simp only [Except.map, h]
  · intro hnone hnone' hle
    rw [perform_logged]
    rw [verbosityOf, verbosityOf, ha, ho] at hle
    exact Log.Filter.shown_sublist hnone hnone' hle _
  · intro shown hshown hshown'
    rw [perform_logged, filter_of_chosen hshown]
    exact congrArg (Log.Filter.shown · _) (filter_of_chosen hshown' other).symm

end

theorem logging_shows (machine : Machine) (environment : Environment) (variant : Variant)
    {arguments others : List Bytes} (start : Run)
    (hargs : SameButVerbosity arguments others)
    (henv : machine.environment.SameButFilter environment) :
    ShowsApart machine { machine with environment } variant arguments others start
      (run machine variant arguments start)
      (run { machine with environment } variant others start) := by
  unfold SameButVerbosity at hargs
  cases ha : CommandLine.parse arguments with
  | error stop =>
    cases ho : CommandLine.parse others with
    | ok other =>
      rw [ha, ho] at hargs
      cases hargs
    | error stop' =>
      rw [ha, ho] at hargs
      cases hargs
      exact shows_stopped start ha ho
  | ok options =>
    cases ho : CommandLine.parse others with
    | error stop =>
      rw [ha, ho] at hargs
      cases hargs
    | ok other =>
      rw [ha, ho] at hargs
      have hquiet : options.quiet = other.quiet := Except.ok.inj hargs
      refine shows_performed start ha ho ?_
      rw [machine.execute_sameButFilter henv, ← machine.execute_quiet variant other, ← hquiet,
        machine.execute_quiet]

/-- The loudest run shows nothing where the environment hides all events. -/
theorem logging_shows_hidden :
    let machine : Machine := {
      place := { files := .empty, current := [Commit.toolName], searchPath := [] }
      environment := []
      network := .scripted }
    let environment : Environment := [(filterVariable, Utf8.ofString "off")]
    let requests : List CommandLine.Occurrence := [.letters 2, .verbose]
    let arguments := [CommandLine.spelled .dryRun]
    let others := requests.flatMap CommandLine.Occurrence.written ++ arguments
    let start : Run := { session := { backend := { script := [], clock := 0 } } }
    let ending := run machine .developers arguments start
    let other := run { machine with environment } .developers others start
    SameButVerbosity arguments others ∧ machine.environment.SameButFilter environment ∧
      ShowsApart machine { machine with environment } .developers arguments others start ending
        other ∧
      ending.logged = [.readingCommit] ∧ other.logged = [] := by
  intro machine environment requests arguments others start ending other
  have hargs : SameButVerbosity arguments others :=
    CommandLine.sameButVerbosity_requests (List.forall_mem_nil _) (by decide) arguments
  have henv : machine.environment.SameButFilter environment := by
    intro name hname
    simp [Environment.text?, machine, environment, Ne.symm hname]
  have hparsed : CommandLine.parse arguments = .ok { dryRun := true } := by decide +kernel
  have hloud : CommandLine.parse others = .ok { verbosity := 4, dryRun := true } := by
    decide +kernel
  -- the tool is missing, which is found out after the only event
  have hevents : ((machine.execute .developers { dryRun := true }).run.run start).2.session.events =
      [.readingCommit] := rfl
  have hall : (filter machine { dryRun := true }).shown [.readingCommit] = [.readingCommit] := by
    decide +kernel
  have hnone : (filter { machine with environment } { verbosity := 4, dryRun := true }).shown
      [.readingCommit] = [] := by
    decide +kernel
  refine ⟨hargs, henv, logging_shows machine environment .developers start hargs henv, ?_, ?_⟩
  · exact (run_logged start hparsed).trans (hevents ▸ hall)
  · exact (run_logged start hloud).trans hnone

end Program

end ManifestNotice
