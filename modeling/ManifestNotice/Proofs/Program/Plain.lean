import ManifestNotice.Proofs.Program.Stages
import ManifestNotice.Proofs.Settings.Source

/-!
# The plain notice

The plain notice says what to run and nothing of the repository. Its program does
not run the version control tool, and does and says the same whatever that tool
is and whatever branch the settings name (`plain_undisturbed`). Only the lines of
a settings file that is refused are counted in that file.
-/

namespace ManifestNotice

open Toml.Grammar (BasicPart Quoted)

-- ---------------------------------------------------------------------------
-- Two runs
-- ---------------------------------------------------------------------------

/-- The same end, or settings that are refused for the same reason, each told
with the lines of its own text. -/
inductive EndsAlike : Except Failure Unit → Except Failure Unit → Prop
  | same (result : Except Failure Unit) : EndsAlike result result
  | offending {path : Bytes} {text other : List Char} {offence second : Settings.Offence} :
      second.problem = offence.problem →
      Text.SameExcerpt text other (offence.report text) (second.report other) →
      EndsAlike (.error (.settings (.offending path text offence)))
        (.error (.settings (.offending path other second)))

theorem EndsAlike.message {result second : Except Failure Unit} (h : EndsAlike result second) :
    second.mapError Failure.message = result.mapError Failure.message := by
  cases h <;> rfl

/-- What is said of two runs from one start: neither makes a call, both have
done the same, and they end alike and with the same message. -/
structure Undisturbed (start : Run) (done other : Except Failure Unit × Run) : Prop where
  calls : done.2.calls = start.calls
  run : other.2 = done.2
  ends : EndsAlike done.1 other.1
  message : other.1.mapError Failure.message = done.1.mapError Failure.message

namespace Undisturbed

variable {start : Run} {done other : Except Failure Unit × Run}

theorem of_eq (h : other = done) (hcalls : done.2.calls = start.calls) :
    Undisturbed start done other where
  calls := hcalls
  run := by rw [h]
  ends := by rw [h]; exact .same _
  message := by rw [h]

theorem of_failures {failure second : Failure} (h : EndsAlike (.error failure) (.error second)) :
    Undisturbed start (.error failure, start) (.error second, start) := ⟨rfl, rfl, h, h.message⟩

end Undisturbed

-- ---------------------------------------------------------------------------
-- A settings file with a tool beside it
-- ---------------------------------------------------------------------------

/-- The usual settings file right below the top, and a tool beside it. -/
def toolTree (text : String) (tool : Option Commit.Outcome) : Node Commit.Outcome :=
  .directory [(Settings.fileName, .file (Utf8.ofString text) none), (Commit.toolName, .file [] tool)]

theorem toolTree_alike {text other : String}
    (h : Settings.Reworded .branch text.toList other.toList) (tool second : Option Commit.Outcome) :
    Node.TreesAlike (Settings.SameContents .branch) (toolTree text tool) (toolTree other second) :=
  .directory (.cons ⟨rfl, .file (.inr ⟨text, other, rfl, rfl, h⟩) none none⟩
    (.cons ⟨rfl, .file (.inl rfl) tool second⟩ .nil))

theorem load_toolTree (text : String) (tool : Option Commit.Outcome) :
    Settings.load (toolTree text tool) [] none = (Settings.parse text.toList).mapError
      (Settings.refusalOf (Settings.usualPath []) text.toList) := by
  have hcomponents : FilePath.components (Settings.usualPath []) = [Settings.fileName] := by
    decide +kernel
  have hleads : Node.Leads (toolTree text tool) [Settings.fileName]
      (.file (Utf8.ofString text) none) :=
    .enter (by decide +kernel) (by decide +kernel) (by decide +kernel)
      (by simp [Node.child?]) (by rintro _ ⟨⟩) .here
  have hresolve := Node.resolve_leads [] (hcomponents ▸ hleads) (by decide +kernel)
    (by decide +kernel) (by decide +kernel) (by decide +kernel)
  have hread : (toolTree text tool).read [] (Settings.usualPath []) = .ok (Utf8.ofString text) := by
    rw [Node.read, hresolve]
    rfl
  have hsource : Settings.source? (toolTree text tool) [] none = some (Settings.usualPath []) := by
    show Settings.search (toolTree text tool) [] = _
    rw [Settings.search, Settings.isThere, hresolve]
    rfl
  rw [Settings.load_eq, hsource]
  exact Settings.loadFile_eq hread

theorem quoted_two_lines (rest : List Char) :
    Quoted ['a', '\n', 'b'] (['"', '"', '"', 'a', '\n', 'b', '"', '"', '"'] ++ rest) rest := by
  refine .basicLines (.whole (by rintro _ ⟨⟩)) ?_
  refine .next (n := 0) (Nat.zero_le 2) (BasicPart.char (.plain rfl)) ?_
  refine .next (n := 0) (Nat.zero_le 2) (BasicPart.line .feed) ?_
  refine .next (n := 0) (Nat.zero_le 2) (BasicPart.char (.plain rfl)) ?_
  exact .close (n := 0) (Nat.zero_le 2)

theorem quoted_one (rest : List Char) : Quoted ['a'] (['"', 'a', '"'] ++ rest) rest :=
  .basic (.next (.plain rfl) .done)

theorem reworded_two_lines {back : String} (h : back.toList.head? = some '\n') :
    Settings.Reworded .branch ("branch = \"a\"" ++ back).toList
      ("branch = \"\"\"a\nb\"\"\"" ++ back).toList := by
  have ends : ∀ c ∈ back.toList.head?, c ≠ '"' ∧ c ≠ '\'' := by
    rw [h]
    rintro _ ⟨⟩
    decide
  rw [String.toList_append, String.toList_append]
  exact ⟨Settings.firstLine .branch back.toList ends, _, _, _, _, quoted_one _, quoted_two_lines _,
    rfl, rfl⟩

-- ---------------------------------------------------------------------------
-- The plain program
-- ---------------------------------------------------------------------------

namespace Settings

theorem SameBut.eq {settings other : Settings} (h : SameBut .branch settings other) :
    other = { settings with branch := other.branch } := by
  refine ext_get fun setting => ?_
  cases setting with
  | branch => rfl
  | _ => exact h _ nofun

end Settings

namespace Machine

open Chat (Client)

theorem execute_refused (machine : Machine) (variant : Variant) {options : CommandLine.Options}
    {failure : Failure} (h : machine.loadSettings options.config = .error failure) (run : Run) :
    (machine.execute variant options).run.run run = (.error failure, run) := by
  simp only [execute, run_bind, run_ofExcept, h]

theorem plain_delivery (machine : Machine) (client : Client) (settings : Settings) (run : Run) :
    (Delivery.run (machine.services client) .plain settings).run.run run =
      (Run.chat (client.deliver settings (Notice.plain settings.folder))).run.run run := by
  have hcomposed : (run.noted Variant.plain.announcement).called
      (machine.notice .plain settings).2 = run := by
    show (run.noted []).called [] = run
    rw [Run.called_nil, Run.noted_nil]
  rw [delivery_run, hcomposed]
  rfl

theorem plain_execute (machine : Machine) {options : CommandLine.Options} {settings : Settings}
    (h : machine.loadSettings options.config = .ok settings) (run : Run) :
    (machine.execute .plain options).run.run run =
      let notice := Notice.plain settings.folder
      if options.dryRun then (.ok (), { run with printed := run.printed ++ notice ++ "\n" })
      else match machine.credentials settings with
        | .error failure => (.error failure, run)
        | .ok credentials =>
          let client : Client := { credentials, network := machine.network }
          (Run.deliver (Run.chat (client.deliver settings notice))).run.run run := by
  cases hdry : options.dryRun with
  | true =>
    simp only [execute, run_bind, run_ofExcept, h, hdry, if_true]
    rfl
  | false =>
    rw [execute_run machine .plain options run hdry, h]
    cases hc : machine.credentials settings with
    | error failure => simp [hc]
    | ok credentials =>
      simp only [hc, Run.deliver_run, plain_delivery]
      rfl

/-- The plain program makes no call. -/
theorem plain_calls (machine : Machine) (options : CommandLine.Options) (run : Run) :
    ((machine.execute .plain options).run.run run).2.calls = run.calls := by
  cases h : machine.loadSettings options.config with
  | error failure => rw [machine.execute_refused .plain h]
  | ok settings =>
    rw [machine.plain_execute h]
    dsimp only
    split
    · rfl
    · cases machine.credentials settings with
      | error failure => rfl
      | ok credentials => rfl

theorem plain_execute_alike (machine : Machine) (place : Commit.Place)
    {options : CommandLine.Options} {settings second : Settings}
    (h : machine.loadSettings options.config = .ok settings)
    (hsecond : ({ machine with place } : Machine).loadSettings options.config = .ok second)
    (hsame : Settings.SameBut .branch settings second) (run : Run) :
    (({ machine with place } : Machine).execute .plain options).run.run run =
      (machine.execute .plain options).run.run run := by
  rw [plain_execute _ hsecond, plain_execute _ h, hsame.eq]
  rfl

theorem plain_runs (machine : Machine) (place : Commit.Place) (options : CommandLine.Options)
    (start : Run) (hcurrent : place.current = machine.place.current)
    (hsource : Settings.SameSource .branch machine.place.files place.files machine.place.current
      options.config) :
    Undisturbed start ((machine.execute .plain options).run.run start)
      ((({ machine with place } : Machine).execute .plain options).run.run start) := by
  have hload := Settings.load_alike hsource
  have hfirst : machine.loadSettings options.config = (Settings.load machine.place.files
      machine.place.current options.config).mapError .settings := rfl
  have hsecond : ({ machine with place } : Machine).loadSettings options.config =
      (Settings.load place.files machine.place.current options.config).mapError .settings := by
    rw [loadSettings, hcurrent]
  generalize Settings.load machine.place.files machine.place.current options.config = loaded
    at hload hfirst
  generalize Settings.load place.files machine.place.current options.config = given
    at hload hsecond
  cases hload with
  | fault fault =>
    rw [execute_refused _ .plain hfirst, execute_refused _ .plain hsecond]
    exact .of_failures (.same _)
  | offending hproblem hreport =>
    rw [execute_refused _ .plain hfirst, execute_refused _ .plain hsecond]
    exact .of_failures (.offending hproblem hreport)
  | taken hsame =>
    exact .of_eq (machine.plain_execute_alike place hfirst hsecond hsame start)
      (machine.plain_calls options start)

theorem perform_eq {machine second : Machine} {variant : Variant} {options : CommandLine.Options}
    {start : Run} (henvironment : second.environment = machine.environment)
    (h : Undisturbed start ((machine.execute variant options).run.run start)
      ((second.execute variant options).run.run start)) :
    Program.perform second variant options start = Program.perform machine variant options start := by
  unfold Program.perform Program.filter
  rw [henvironment]
  generalize (machine.execute variant options).run.run start = done at h
  generalize (second.execute variant options).run.run start = other at h
  obtain ⟨result, run⟩ := done
  obtain ⟨given, after⟩ := other
  obtain ⟨-, rfl, hends, -⟩ := h
  cases hends <;> rfl

/-- Places with the same settings but for the branch. What else is in their
files, which programs, and where these are looked for, makes no difference. -/
theorem plain_undisturbed (machine : Machine) (place : Commit.Place)
    (options : CommandLine.Options) (start : Run) (hcurrent : place.current = machine.place.current)
    (hsource : Settings.SameSource .branch machine.place.files place.files machine.place.current
      options.config) :
    let other : Machine := { machine with place }
    Undisturbed start ((machine.execute .plain options).run.run start)
        ((other.execute .plain options).run.run start) ∧
      Program.perform other .plain options start = Program.perform machine .plain options start :=
  have hruns := machine.plain_runs place options start hcurrent hsource
  ⟨hruns, perform_eq rfl hruns⟩

/-- Here the tool dies of a signal, there it is no program and not looked for. -/
theorem undisturbed_by_dying_tool :
    let back := "\nfolder = 'f'\n"
    let text := "branch = \"a\"" ++ back
    let second := "branch = \"\"\"a\nb\"\"\"" ++ back
    let machine : Machine :=
      { place := { files := toolTree text (some { exit := .signal 9 }), current := []
                   searchPath := [[FilePath.slash]] }
        environment := [], network := .scripted }
    let place : Commit.Place := { files := toolTree second none, current := [], searchPath := [] }
    let other : Machine := { machine with place }
    let options : CommandLine.Options := { dryRun := true }
    let start := Run.fresh [] 1000
    let done := (machine.execute .plain options).run.run start
    place.current = machine.place.current ∧
      Settings.SameSource .branch machine.place.files place.files machine.place.current
        options.config ∧
      done.1 = .ok () ∧ done.2.printed = Notice.plain "f" ++ "\n" ∧
      Undisturbed start done ((other.execute .plain options).run.run start) ∧
      Program.perform other .plain options start = Program.perform machine .plain options start := by
  intro back text second machine place other options start done
  have hreworded : Settings.Reworded .branch text.toList second.toList :=
    reworded_two_lines (by decide)
  have hsource : Settings.SameSource .branch machine.place.files place.files
      machine.place.current options.config :=
    Settings.sameSource_of_trees (toolTree_alike hreworded _ _) _ _
  have hload : machine.loadSettings options.config = .ok { folder := "f", branch := "a" } := by
    have hparse : Settings.parse text.toList = .ok { folder := "f", branch := "a" } := by
      decide +kernel
    show (Settings.load (toolTree text _) [] none).mapError Failure.settings = _
    rw [load_toolTree, hparse]
    rfl
  have hdone : done = _ := machine.plain_execute hload start
  rw [hdone]
  exact ⟨rfl, hsource, rfl, rfl, hdone ▸ machine.plain_undisturbed place options start rfl hsource⟩

/-- The reason for a refusal names a line, and lines of the branch count. -/
theorem refused_at_own_line :
    let back := "\nother = 1\n"
    let text := "branch = \"a\"" ++ back
    let second := "branch = \"\"\"a\nb\"\"\"" ++ back
    let place (text : String) : Commit.Place :=
      { files := toolTree text none, current := [], searchPath := [] }
    let machine (text : String) : Machine :=
      { place := place text, environment := [], network := .scripted }
    let result (text : String) :=
      (((machine text).execute .plain { dryRun := true }).run.run (Run.fresh [] 1000)).1
    let told (line : String) := "TOML parse error at line " ++ line ++ ", column 1\n  |\n" ++
      line ++ " | other = 1\n  | ^^^^^\n" ++
      "unknown field `other`, expected one of `server_url`, `channel_id`, `folder`, `branch`\n"
    Settings.SameSource .branch (place text).files (place second).files [] none ∧
      ∃ fault given : SettingsFault,
        result text = .error (.settings fault) ∧ fault.cause? = some (told "2") ∧
        result second = .error (.settings given) ∧ given.cause? = some (told "3") ∧
        fault.cause? ≠ given.cause? := by
  intro back text second place machine result told
  have hreworded : Settings.Reworded .branch text.toList second.toList :=
    reworded_two_lines (by decide)
  have hresult (text : String) {offence : Settings.Offence}
      (h : Settings.parse text.toList = .error (.offending offence)) :
      result text = .error (.settings (.offending (Settings.usualPath []) text.toList offence)) := by
    have hload : (machine text).loadSettings none =
        .error (.settings (.offending (Settings.usualPath []) text.toList offence)) := by
      show (Settings.load (toolTree text none) [] none).mapError Failure.settings = _
      rw [load_toolTree, h]
      rfl
    exact congrArg Prod.fst ((machine text).execute_refused .plain hload _)
  have hfirst : Settings.parse text.toList =
      .error (.offending ⟨.unknownKey "other".toList, ⟨10, 5⟩⟩) := by
    decide +kernel
  have hsecond : Settings.parse second.toList =
      .error (.offending ⟨.unknownKey "other".toList, ⟨10, 5⟩⟩) := by
    decide +kernel
  exact ⟨Settings.sameSource_of_trees (toolTree_alike hreworded _ _) _ _,
    _, _, hresult text hfirst, by decide +kernel, hresult second hsecond, by decide +kernel,
    by decide +kernel⟩

end Machine

end ManifestNotice
