import ManifestNotice.Proofs.CommandLine

/-!
# More verbose

No step of the reading looks at how verbose the program is to be
(`PassesCount.steps`). So requests to be more verbose can be put in front of any
arguments: the answer is the same, but for the count (`parse_louder`).
-/

namespace ManifestNotice.CommandLine

section
variable {f g : State → Except Stop State}

/-- Whether the count is raised before or after makes no difference. -/
def PassesCount (f : State → Except Stop State) : Prop :=
  ∀ state, f state.count = (f state).map State.count

namespace PassesCount

theorem bind (hf : PassesCount f) (hg : PassesCount g) :
    PassesCount fun state => f state >>= g := by
  intro state
  show f state.count >>= g = (f state >>= g).map State.count
  rw [hf state]
  cases f state with
  | error stop => rfl
  | ok next => exact hg next

theorem stop (stop : Stop) : PassesCount fun _ => .error stop := fun _ => rfl

theorem setConfig (value : Bytes) : PassesCount (·.setConfig value) := by
  intro state
  simp only [State.setConfig]
  rw [show state.count.options.config = state.options.config from rfl]
  split
  · rfl
  · split <;> rfl

theorem settle : PassesCount State.settle := by
  rintro ⟨options, pending⟩
  match pending with
  | none => rfl
  | some none => rfl
  | some (some value) => exact setConfig value ⟨options, none⟩

theorem take (flag : Flag) (value : Option Bytes) : PassesCount (·.take flag value) := by
  cases flag <;> cases value
  case config.some value => exact settle.bind (setConfig value)
  case config.none => exact settle.bind fun _ => rfl
  case verbose.none => exact settle.bind fun _ => rfl
  case dryRun.none =>
    refine settle.bind fun state => ?_
    show (if state.options.dryRun then _ else _) =
      Except.map _ (if state.options.dryRun then _ else _)
    split <;> rfl
  case help.none => exact settle.bind (stop .help)
  case version.none => exact settle.bind (stop .version)
  all_goals exact stop _

theorem cluster (letters : Bytes) : PassesCount (CommandLine.cluster · letters) := by
  induction letters with
  | nil => exact fun _ => rfl
  | cons letter rest ih =>
    intro state
    simp only [cluster.eq_def _ (letter :: rest)]
    split
    · rfl
    · split
      · exact take .config none state
      · exact take .config _ state
    · exact (take _ none).bind ih state

theorem plain (arg : Bytes) : PassesCount (CommandLine.plain · arg) := by
  intro state
  simp only [CommandLine.plain]
  rw [show state.count.pending = state.pending from rfl]
  split <;> rfl

theorem long (text : Bytes) : PassesCount (CommandLine.long · text) := by
  intro state
  simp only [CommandLine.long]
  split
  · exact take _ _ state
  · rfl

theorem step (arg : Bytes) : PassesCount (CommandLine.step · arg) := by
  intro state
  simp only [CommandLine.step]
  split
  · split
    · exact long _ state
    · split
      · exact cluster _ state
      · exact plain _ state
  · exact plain _ state

theorem steps (args : List Bytes) : PassesCount (CommandLine.steps · args) := by
  induction args with
  | nil => exact fun _ => rfl
  | cons arg rest ih =>
    intro state
    simp only [steps.eq_def _ (arg :: rest)]
    split
    · split <;> rfl
    · exact (step arg).bind ih state

end PassesCount

theorem PassesCount.iterate (hf : PassesCount f) (n : Nat) (state : State) :
    f (State.count^[n] state) = (f state).map State.count^[n] := by
  induction n generalizing state with
  | zero => cases hs : f state <;> simp [hs, Except.map]
  | succ n ih =>
    rw [Function.iterate_succ_apply, ih, hf state]
    cases f state <;> rfl

end

-- ---------------------------------------------------------------------------
-- Requests in front
-- ---------------------------------------------------------------------------

namespace Occurrence

def isRequest : Occurrence → Bool
  | .verbose | .letters _ => true
  | _ => false

theorem take_of_isRequest {occurrence : Occurrence} (h : occurrence.isRequest) (state : State) :
    occurrence.take state = .ok state := by
  cases occurrence with
  | verbose | letters => rfl
  | _ => cases h

end Occurrence

theorem steps_requests {requests : List Occurrence} (h : ∀ o ∈ requests, o.isRequest)
    {state : State} (hp : state.pending = none) (args : List Bytes) :
    steps state (requests.flatMap Occurrence.written ++ args) =
      steps (State.count^[times requests .verbose] state) args := by
  induction requests generalizing state with
  | nil => rfl
  | cons request rest ih =>
    obtain ⟨hrequest, hrest⟩ := List.forall_mem_cons.mp h
    have hcounted : (State.count^[request.loudness] state).pending = none := by
      rw [State.pending_iterate_count, hp]
    have htimes : times (request :: rest) .verbose =
        times rest .verbose + request.loudness := by
      simp [times, Nat.add_comm]
    rw [List.flatMap_cons, List.append_assoc, steps_written, State.settle_of_pending hp, htimes,
      Function.iterate_add_apply]
    show (request.take _ >>= _) = _
    rw [Occurrence.take_of_isRequest hrequest]
    exact ih hrest hcounted

namespace Options

def louder (options : Options) (count : Nat) : Options :=
  { options with verbosity := CommandLine.louder^[count] options.verbosity }

end Options

theorem parse_louder {requests : List Occurrence} (h : ∀ o ∈ requests, o.isRequest)
    (args : List Bytes) :
    parse (requests.flatMap Occurrence.written ++ args) =
      (parse args).map (·.louder (times requests .verbose)) := by
  have hread : PassesCount fun state => steps state args >>= State.settle :=
    (PassesCount.steps args).bind .settle
  have hfinish (state : State) :
      finish state args = (steps state args >>= State.settle).map (·.options) := by
    rw [finish]
    cases steps state args with
    | error stop => rfl
    | ok next =>
      show (next.settle >>= fun settled => pure settled.options) = next.settle.map (·.options)
      cases next.settle <;> rfl
  calc parse (requests.flatMap Occurrence.written ++ args)
      = finish (State.count^[times requests .verbose] {}) args := by
        rw [parse, steps_requests h rfl, finish]
    _ = ((steps {} args >>= State.settle).map State.count^[times requests .verbose]).map
          (·.options) := by rw [hfinish, hread.iterate]
    _ = ((steps {} args >>= State.settle).map (·.options)).map
          (·.louder (times requests .verbose)) := by
        cases steps {} args >>= State.settle with
        | error stop => rfl
        | ok settled => simp only [Except.map, State.iterate_count, Options.louder]
    _ = (parse args).map (·.louder (times requests .verbose)) := by
        rw [← hfinish]
        rfl

end ManifestNotice.CommandLine
