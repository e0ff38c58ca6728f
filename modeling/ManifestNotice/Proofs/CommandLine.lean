import ManifestNotice.CommandLine
import Mathlib.Data.List.Perm.Basic
import Mathlib.Data.List.TakeWhile
import Mathlib.Algebra.BigOperators.Group.List.Basic
import Mathlib.Algebra.GroupWithZero.Nat

/-!
# Options in any order

A command line of options that are all written in one of their ways says how
often each is asked for, and nothing else matters: not the order, not the way
(`parse_written`). A value that follows its option is settled late; what comes
of that is the same as if it were settled at once (`finish_written`).
-/

namespace ManifestNotice.CommandLine

-- ---------------------------------------------------------------------------
-- Occurrences
-- ---------------------------------------------------------------------------

def spelled (flag : Flag) : Bytes := dash :: dash :: Utf8.ofString flag.name

/-- The letters of the option that is counted and of the one that takes a value. -/
def letterV : UInt8 := 0x76

def letterC : UInt8 := 0x63

/-- One option, in one of the ways to write it. A value that stands alone must not
look like an option, and one right behind the letter must not start with an equals
sign, which would not be a part of it. -/
inductive Occurrence where
  | verbose
  /-- The letter, once or more often. -/
  | letters (more : Nat)
  | dryRun
  /-- The value behind an equals sign. -/
  | assigned (value : Bytes) (given : value ≠ [])
  /-- The value in an argument of its own. -/
  | named (value : Bytes) (given : value ≠ []) (plain : value.head? ≠ some dash)
  /-- The same behind letters, the last of which is that of the option. -/
  | lettered (count : Nat) (value : Bytes) (given : value ≠ []) (plain : value.head? ≠ some dash)
  /-- The value right behind the letters. -/
  | attached (count : Nat) (value : Bytes) (given : value ≠ []) (plain : value.head? ≠ some equals)

namespace Occurrence

def written : Occurrence → List Bytes
  | .verbose => [spelled .verbose]
  | .letters more => [dash :: List.replicate (more + 1) letterV]
  | .dryRun => [spelled .dryRun]
  | .assigned value _ => [spelled .config ++ equals :: value]
  | .named value .. => [spelled .config, value]
  | .lettered count value .. => [dash :: (List.replicate count letterV ++ [letterC]), value]
  | .attached count value .. => [dash :: (List.replicate count letterV ++ letterC :: value)]

def value? : Occurrence → Option Bytes
  | .assigned value _ | .named value .. | .lettered _ value .. | .attached _ value .. => some value
  | .verbose | .letters _ | .dryRun => none

def loudness : Occurrence → Nat
  | .verbose => 1
  | .letters more => more + 1
  | .lettered count .. | .attached count .. => count
  | .dryRun | .assigned .. | .named .. => 0

def isDryRun : Occurrence → Bool
  | .dryRun => true
  | _ => false

end Occurrence

open Occurrence

def values (occurrences : List Occurrence) : List Bytes := occurrences.filterMap value?

def times (occurrences : List Occurrence) : Flag → Nat
  | .verbose => (occurrences.map loudness).sum
  | .config => (values occurrences).length
  | .dryRun => occurrences.countP isDryRun
  | .help | .version => 0

/-- What is asked for, if nothing is repeated that must not be. -/
def asked (occurrences : List Occurrence) : Options where
  verbosity := min 255 (times occurrences .verbose)
  config := (values occurrences).head?
  dryRun := 0 < times occurrences .dryRun

/-- The result a command line has that consists of the occurrences. -/
structure Answers (occurrences : List Occurrence) (result : Except Stop Options) : Prop where
  isOk_iff : result.isOk = true ↔ times occurrences .config ≤ 1 ∧ times occurrences .dryRun ≤ 1
  options : ∀ options, result = .ok options → options = asked occurrences
  /-- Nothing but a repetition stops it, and there is one. -/
  conflict : ∀ stop, result = .error stop →
    ∃ flag ∈ [Flag.config, Flag.dryRun], stop = .repeated flag ∧ 1 < times occurrences flag

-- ---------------------------------------------------------------------------
-- Counting
-- ---------------------------------------------------------------------------

/-- One more, up to what a byte can hold. -/
def louder (verbosity : Nat) : Nat := min 255 (verbosity + 1)

theorem iterate_louder (m n : Nat) : louder^[n] (min 255 m) = min 255 (m + n) := by
  induction n with
  | zero => rfl
  | succ n ih =>
    rw [Function.iterate_succ_apply', ih, louder]
    omega

section
variable {seen more : List Occurrence} {flag : Flag}

theorem values_append : values (seen ++ more) = values seen ++ values more :=
  List.filterMap_append

theorem times_append : times (seen ++ more) flag = times seen flag + times more flag := by
  cases flag with
  | verbose => simp [times]
  | config => simp [times, values_append]
  | dryRun => simp [times]
  | help | version => rfl

end

-- ---------------------------------------------------------------------------
-- States
-- ---------------------------------------------------------------------------

namespace State

variable {state after : State}

theorem settle_of_pending (h : state.pending = none) : state.settle = .ok state := by
  rw [settle, h]

theorem setConfig_of_ne {value : Bytes} (h : value ≠ []) (state : State) :
    state.setConfig value =
      if state.options.config.isSome then .error (.repeated .config)
      else .ok { state with options := { state.options with config := some value } } := by
  rw [setConfig, List.isEmpty_eq_false_iff.mpr h]
  rfl

theorem pending_of_settle (h : state.settle = .ok after) : after.pending = none := by
  unfold settle at h
  split at h
  · next hp =>
    cases h
    exact hp
  · cases h
  · unfold setConfig at h
    split at h
    · cases h
    · split at h <;> cases h
      rfl

theorem iterate_count (n : Nat) (state : State) : count^[n] state =
    { state with options := { state.options with
      verbosity := louder^[n] state.options.verbosity } } := by
  induction n generalizing state with
  | zero => rfl
  | succ n ih => exact ih state.count

theorem pending_iterate_count (n : Nat) (state : State) :
    (count^[n] state).pending = state.pending := by
  rw [iterate_count]

theorem settle_bind_settle {α : Type} (state : State) (n : Nat) (next : State → Except Stop α) :
    (state.settle >>= fun settled => (count^[n] settled).settle >>= next) =
      state.settle >>= fun settled => next (count^[n] settled) := by
  cases hs : state.settle with
  | error stop => rfl
  | ok settled =>
    have hp : (count^[n] settled).pending = none := by
      rw [pending_iterate_count, pending_of_settle hs]
    show (count^[n] settled).settle >>= next = next (count^[n] settled)
    rw [settle_of_pending hp]
    rfl

end State

-- ---------------------------------------------------------------------------
-- Arguments
-- ---------------------------------------------------------------------------

section
variable {arg value : Bytes}

open State

theorem steps_cons (h : arg ≠ [dash, dash]) (state : State) (rest : List Bytes) :
    steps state (arg :: rest) = step state arg >>= fun state => steps state rest := by
  rw [steps.eq_def]
  exact if_neg (by simpa using h)

/-- Letters are read one by one behind their dash. -/
theorem steps_letters {letters : Bytes} (hg : letters ≠ []) (hp : letters.head? ≠ some dash)
    (state : State) (rest : List Bytes) :
    steps state ((dash :: letters) :: rest) = cluster state letters >>= (steps · rest) := by
  cases letters with
  | nil => exact absurd rfl hg
  | cons letter letters =>
    have hletter : letter ≠ dash := fun h => hp (congrArg some h)
    have hstep : step state (dash :: letter :: letters) = cluster state (letter :: letters) := by
      simp [step, hletter]
    rw [steps_cons (by simp [hletter]), hstep]

theorem step_plain (hg : value ≠ []) (hp : value.head? ≠ some dash) (state : State) :
    step state value = plain state value := by
  cases value with
  | nil => exact absurd rfl hg
  | cons first rest =>
    have hfirst : first ≠ dash := fun h => hp (congrArg some h)
    cases rest with
    | nil => rfl
    | cons => simp [step, hfirst]

theorem ofName?_name (flag : Flag) : Flag.ofName? (Utf8.ofString flag.name) = some flag := by
  cases flag <;> decide +kernel

theorem equals_not_mem_name (flag : Flag) : equals ∉ Utf8.ofString flag.name := by
  cases flag <;> decide +kernel

theorem splitValue_equals {name : Bytes} (h : equals ∉ name) (value : Bytes) :
    splitValue (name ++ equals :: value) = (name, some value) := by
  have hname : ∀ b ∈ name, (b != equals) = true := by
    intro b hb
    rw [bne_iff_ne]
    rintro rfl
    exact h hb
  rw [splitValue, List.dropWhile_append_of_pos hname, List.dropWhile_cons_of_neg (by simp),
    List.takeWhile_append_of_pos hname, List.takeWhile_cons_of_neg (by simp), List.append_nil]

theorem splitValue_name {name : Bytes} (h : equals ∉ name) : splitValue name = (name, none) := by
  have hname : name.dropWhile (· != equals) = [] := by
    rw [List.dropWhile_eq_nil_iff]
    intro b hb
    rw [bne_iff_ne]
    rintro rfl
    exact h hb
  rw [splitValue, hname]

theorem step_spelled (flag : Flag) (state : State) :
    step state (spelled flag) = state.take flag none := by
  show long state (Utf8.ofString flag.name) = _
  rw [long, splitValue_name (equals_not_mem_name flag)]
  simp only [ofName?_name]

theorem step_assigned (flag : Flag) (value : Bytes) (state : State) :
    step state (spelled flag ++ equals :: value) = state.take flag (some value) := by
  show long state (Utf8.ofString flag.name ++ equals :: value) = _
  rw [long, splitValue_equals (equals_not_mem_name flag)]
  simp only [ofName?_name]

theorem spelled_ne (flag : Flag) (rest : Bytes) : spelled flag ++ rest ≠ [dash, dash] := by
  have hname : Utf8.ofString flag.name ≠ [] := by cases flag <;> decide +kernel
  intro h
  have hnil : Utf8.ofString flag.name ++ rest = [] := by
    simpa [spelled] using h
  exact hname (List.append_eq_nil_iff.mp hnil).1

theorem cluster_replicate {rest : Bytes} {next : State → Except Stop State}
    (h : ∀ state, cluster state rest = state.settle >>= next) (n : Nat) (state : State) :
    cluster state (List.replicate n letterV ++ rest) =
      state.settle >>= fun state => next (count^[n] state) := by
  induction n generalizing state with
  | zero => exact h state
  | succ n ih =>
    have hletter : Flag.ofLetter? letterV = some .verbose := by decide
    rw [List.replicate_succ, List.cons_append, cluster.eq_def]
    simp only [hletter]
    show (state.settle >>= fun settled => pure settled.count) >>= (cluster · _) = _
    simp only [bind_assoc, pure_bind, ih]
    exact settle_bind_settle state 1 fun state => next (count^[n] state)

theorem cluster_letterV (state : State) :
    cluster state [letterV] = state.settle >>= fun settled => pure settled.count := by
  have hletter : Flag.ofLetter? letterV = some .verbose := by decide
  rw [cluster.eq_def]
  simp only [hletter]
  show (state.settle >>= fun settled => pure settled.count) >>= (cluster · []) = _
  simp only [bind_assoc, pure_bind]
  rfl

theorem cluster_letterC (state : State) :
    cluster state [letterC] =
      state.settle >>= fun settled => pure { settled with pending := some none } := by
  have hletter : Flag.ofLetter? letterC = some .config := by decide
  rw [cluster.eq_def]
  simp only [hletter]
  rfl

theorem cluster_attached (hg : value ≠ []) (hp : value.head? ≠ some equals) (state : State) :
    cluster state (letterC :: value) = state.settle >>= (·.setConfig value) := by
  have hletter : Flag.ofLetter? letterC = some .config := by decide
  cases value with
  | nil => exact absurd rfl hg
  | cons first rest =>
    have hfirst : (first == equals) = false := beq_eq_false_iff_ne.mpr fun h => hp (congrArg some h)
    rw [cluster.eq_def]
    simp only [hletter, hfirst]
    rfl

theorem steps_replicate {letter : UInt8} {letters : Bytes} {next : State → Except Stop State}
    (hletter : letter ≠ dash)
    (h : ∀ state, cluster state (letter :: letters) = state.settle >>= next) (n : Nat)
    (state : State) (rest : List Bytes) :
    steps state ((dash :: (List.replicate n letterV ++ letter :: letters)) :: rest) =
      state.settle >>= fun settled => next (count^[n] settled) >>= (steps · rest) := by
  have hhead : (List.replicate n letterV ++ letter :: letters).head? ≠ some dash := by
    cases n with
    | zero => simpa using hletter
    | succ n => simp [List.replicate_succ, letterV, dash]
  rw [steps_letters (by simp) hhead, cluster_replicate h, bind_assoc]

theorem steps_value (hg : value ≠ []) (hp : value.head? ≠ some dash) (state : State)
    (rest : List Bytes) :
    steps { state with pending := some none } (value :: rest) =
      steps { state with pending := some (some value) } rest := by
  have hend : value ≠ [dash, dash] := by
    rintro rfl
    exact hp rfl
  rw [steps_cons hend, step_plain hg hp]
  rfl

end

-- ---------------------------------------------------------------------------
-- What an occurrence does
-- ---------------------------------------------------------------------------

/-- What becomes of a settled state once the letters are counted. -/
def Occurrence.take : Occurrence → State → Except Stop State
  | .verbose, state | .letters _, state => .ok state
  | .dryRun, state =>
    if state.options.dryRun then .error (.repeated .dryRun)
    else .ok { state with options := { state.options with dryRun := true } }
  | .assigned value _, state | .attached _ value .., state => state.setConfig value
  | .named value .., state | .lettered _ value .., state =>
    .ok { state with pending := some (some value) }

theorem steps_written (occurrence : Occurrence) (state : State) (rest : List Bytes) :
    steps state (occurrence.written ++ rest) =
      state.settle >>= fun settled =>
        occurrence.take (State.count^[occurrence.loudness] settled) >>= (steps · rest) := by
  cases occurrence with
  | verbose =>
    show steps state (spelled .verbose :: rest) = _
    rw [steps_cons (by simpa using spelled_ne .verbose []), step_spelled]
    show (state.settle >>= fun settled => pure settled.count) >>= _ = _
    simp only [bind_assoc, pure_bind]
    rfl
  | letters more =>
    show steps state ((dash :: List.replicate (more + 1) letterV) :: rest) = _
    rw [List.replicate_succ', steps_replicate (by decide) cluster_letterV]
    simp only [← Function.iterate_succ_apply' State.count, pure_bind]
    rfl
  | dryRun =>
    show steps state (spelled .dryRun :: rest) = _
    rw [steps_cons (by simpa using spelled_ne .dryRun []), step_spelled]
    show (state.settle >>= fun settled => _) >>= _ = _
    rw [bind_assoc]
    congr 1
  | assigned value given =>
    show steps state ((spelled .config ++ equals :: value) :: rest) = _
    rw [steps_cons (spelled_ne .config _), step_assigned]
    show (state.settle >>= fun settled => _) >>= _ = _
    rw [bind_assoc]
    rfl
  | named value given plain =>
    show steps state (spelled .config :: value :: rest) = _
    rw [steps_cons (by simpa using spelled_ne .config []), step_spelled]
    show (state.settle >>= fun settled => pure { settled with pending := some none }) >>= _ = _
    simp only [bind_assoc, pure_bind, steps_value given plain]
    rfl
  | lettered count value given plain =>
    show steps state ((dash :: (List.replicate count letterV ++ [letterC])) :: value :: rest) = _
    rw [steps_replicate (by decide) cluster_letterC]
    simp only [pure_bind, steps_value given plain]
    rfl
  | attached count value given plain =>
    exact steps_replicate (by decide) (cluster_attached given plain) count state rest

-- ---------------------------------------------------------------------------
-- At once
-- ---------------------------------------------------------------------------

def enter (options : Options) (occurrence : Occurrence) : Except Stop Options :=
  let counted := { options with verbosity := louder^[occurrence.loudness] options.verbosity }
  match occurrence.value? with
  | some value =>
    if options.config.isSome then .error (.repeated .config)
    else .ok { counted with config := some value }
  | none =>
    if !occurrence.isDryRun then .ok counted
    else if options.dryRun then .error (.repeated .dryRun)
    else .ok { counted with dryRun := true }

def finish (state : State) (args : List Bytes) : Except Stop Options := do
  let state ← steps state args
  pure (← state.settle).options

theorem take_settle {settled : State} (h : settled.pending = none) (occurrence : Occurrence) :
    (do pure (← (← occurrence.take (State.count^[occurrence.loudness] settled)).settle).options) =
      enter settled.options occurrence := by
  obtain ⟨⟨verbosity, config, dryRun⟩, pending⟩ := settled
  cases h
  rw [State.iterate_count]
  cases occurrence with
  | verbose | letters => rfl
  | dryRun => cases dryRun <;> rfl
  | assigned value given | attached count value given plain =>
    simp only [take, State.setConfig_of_ne given]
    cases config <;> rfl
  | named value given plain | lettered count value given plain =>
    show (do pure (← State.setConfig _ value).options) = _
    rw [State.setConfig_of_ne given]
    cases config <;> rfl

theorem finish_written (occurrences : List Occurrence) (state : State) :
    finish state (occurrences.flatMap written) =
      state.settle >>= fun settled => occurrences.foldlM enter settled.options := by
  induction occurrences generalizing state with
  | nil => rfl
  | cons occurrence rest ih =>
    rw [List.flatMap_cons, finish, steps_written, bind_assoc]
    cases hs : state.settle with
    | error stop => rfl
    | ok settled =>
      have henter := take_settle (State.pending_of_settle hs) occurrence
      show (occurrence.take (State.count^[occurrence.loudness] settled) >>= _) >>= _ = _
      generalize occurrence.take (State.count^[occurrence.loudness] settled) = taken at henter ⊢
      calc (taken >>= (steps · (rest.flatMap written))) >>=
              (fun state => do pure (← state.settle).options)
          = taken >>= (finish · (rest.flatMap written)) := bind_assoc ..
        _ = (do pure (← (← taken).settle).options) >>= (rest.foldlM enter ·) := by
            simp only [ih, bind_assoc, pure_bind]
        _ = (occurrence :: rest).foldlM enter settled.options := by
            rw [henter, List.foldlM_cons]

-- ---------------------------------------------------------------------------
-- The whole line
-- ---------------------------------------------------------------------------

section
variable {seen occurrences : List Occurrence} {flag : Flag}

namespace Answers

theorem ok (hconfig : times occurrences .config ≤ 1) (hdry : times occurrences .dryRun ≤ 1) :
    Answers occurrences (.ok (asked occurrences)) where
  isOk_iff := by simp [Except.isOk, Except.toBool, hconfig, hdry]
  options := by
    rintro options ⟨⟩
    rfl
  conflict := by
    rintro stop ⟨⟩

theorem repeated (hflag : flag ∈ [Flag.config, Flag.dryRun]) (h : 1 < times occurrences flag) :
    Answers occurrences (.error (.repeated flag)) where
  isOk_iff := by
    simp only [List.mem_cons, List.not_mem_nil, or_false] at hflag
    rcases hflag with rfl | rfl <;> simp [Except.isOk, Except.toBool] <;> omega
  options := by
    rintro options ⟨⟩
  conflict := by
    rintro stop ⟨⟩
    exact ⟨flag, hflag, rfl, h⟩

end Answers

/-- What comes later does not undo a repetition. -/
theorem Answers.append {stop : Stop} (h : Answers seen (.error stop)) (more : List Occurrence) :
    Answers (seen ++ more) (.error stop) := by
  obtain ⟨flag, hflag, rfl, htimes⟩ := h.conflict stop rfl
  refine .repeated hflag ?_
  rw [times_append]
  omega

section
variable {occurrence : Occurrence}

theorem times_singleton_verbose : times [occurrence] .verbose = occurrence.loudness := by
  simp [times]

theorem enter_value {value : Bytes} (hv : occurrence.value? = some value)
    (hdry : times seen .dryRun ≤ 1) :
    Answers (seen ++ [occurrence]) (enter (asked seen) occurrence) := by
  have hvalue : values [occurrence] = [value] := by simp [values, hv]
  have hnot : times [occurrence] .dryRun = 0 := by
    cases occurrence <;> first | rfl | cases hv
  cases hseen : values seen with
  | nil =>
    have hentered : enter (asked seen) occurrence = .ok (asked (seen ++ [occurrence])) := by
      simp [enter, hv, asked, hseen, hvalue, values_append, times_append, hnot,
        times_singleton_verbose, iterate_louder]
    rw [hentered]
    refine .ok ?_ ?_
    · simp [times, values_append, hseen, hvalue]
    · rw [times_append, hnot]
      exact hdry
  | cons first rest =>
    have hentered : enter (asked seen) occurrence = .error (.repeated .config) := by
      simp [enter, hv, asked, hseen]
    rw [hentered]
    refine .repeated (by simp) ?_
    simp [times, values_append, hseen, hvalue]

theorem enter_none (hv : occurrence.value? = none)
    (hconfig : times seen .config ≤ 1) (hdry : times seen .dryRun ≤ 1) :
    Answers (seen ++ [occurrence]) (enter (asked seen) occurrence) := by
  have hvalue : values [occurrence] = [] := by simp [values, hv]
  have hsame : times (seen ++ [occurrence]) .config = times seen .config := by
    simp [times, values_append, hvalue]
  cases hd : occurrence.isDryRun with
  | false =>
    have hnot : times [occurrence] .dryRun = 0 := by simp [times, hd]
    have hentered : enter (asked seen) occurrence = .ok (asked (seen ++ [occurrence])) := by
      simp [enter, hv, hd, asked, hvalue, values_append, times_append, hnot,
        times_singleton_verbose, iterate_louder]
    rw [hentered]
    refine .ok (hsame ▸ hconfig) ?_
    rw [times_append, hnot]
    exact hdry
  | true =>
    have hone : times [occurrence] .dryRun = 1 := by simp [times, hd]
    by_cases hseen : times seen .dryRun = 0
    · have hentered : enter (asked seen) occurrence = .ok (asked (seen ++ [occurrence])) := by
        simp [enter, hv, hd, asked, hvalue, values_append, times_append, hseen, hone,
          times_singleton_verbose, iterate_louder]
      rw [hentered]
      refine .ok (hsame ▸ hconfig) ?_
      rw [times_append, hseen, hone]
    · have hentered : enter (asked seen) occurrence = .error (.repeated .dryRun) := by
        simp [enter, hv, hd, asked, Nat.pos_of_ne_zero hseen]
      rw [hentered]
      refine .repeated (by simp) ?_
      rw [times_append]
      omega

end

theorem Answers.enter {options : Options} (h : Answers seen (.ok options))
    (occurrence : Occurrence) : Answers (seen ++ [occurrence]) (enter options occurrence) := by
  obtain ⟨hconfig, hdry⟩ := h.isOk_iff.mp rfl
  cases h.options options rfl
  cases hv : occurrence.value? with
  | some value => exact enter_value hv hdry
  | none => exact enter_none hv hconfig hdry

theorem Answers.foldlM {options : Options} (h : Answers seen (.ok options))
    (more : List Occurrence) : Answers (seen ++ more) (more.foldlM CommandLine.enter options) := by
  induction more generalizing seen options with
  | nil =>
    rw [List.append_nil]
    exact h
  | cons occurrence more ih =>
    have hstep := h.enter occurrence
    rw [List.foldlM_cons, List.append_cons]
    cases hentered : CommandLine.enter options occurrence with
    | error stop =>
      rw [hentered] at hstep
      exact hstep.append more
    | ok entered =>
      rw [hentered] at hstep
      exact ih hstep

theorem answers_parse (occurrences : List Occurrence) :
    Answers occurrences (parse (occurrences.flatMap written)) := by
  have hparse : parse (occurrences.flatMap written) = occurrences.foldlM enter {} :=
    finish_written occurrences {}
  have hstart : Answers [] (.ok (asked [])) := .ok (by decide) (by decide)
  rw [hparse]
  exact hstart.foldlM occurrences

-- ---------------------------------------------------------------------------
-- Order
-- ---------------------------------------------------------------------------

variable {others : List Occurrence}

theorem times_perm (h : others.Perm occurrences) (flag : Flag) :
    times others flag = times occurrences flag := by
  cases flag with
  | verbose => exact (h.map loudness).sum_eq
  | config => exact (h.filterMap value?).length_eq
  | dryRun => exact h.countP_eq isDryRun
  | help | version => rfl

/-- A single value is the first in any order. -/
theorem asked_perm (h : others.Perm occurrences) (hconfig : times occurrences .config ≤ 1) :
    asked others = asked occurrences := by
  have hvalues : values others = values occurrences := by
    have hperm : (values others).Perm (values occurrences) := h.filterMap value?
    have hlength : (values occurrences).length ≤ 1 := hconfig
    match hv : values occurrences, hlength with
    | [], _ => rw [hv] at hperm; exact hperm.eq_nil
    | [value], _ => rw [hv] at hperm; exact hperm.eq_singleton
  rw [asked, asked, times_perm h, times_perm h, hvalues]

namespace Answers

variable {result : Except Stop Options}

theorem perm (h : others.Perm occurrences) (ha : Answers others result) :
    Answers occurrences result where
  isOk_iff := by
    rw [← times_perm h, ← times_perm h]
    exact ha.isOk_iff
  options := by
    rintro options rfl
    have honce := (ha.isOk_iff.mp rfl).1
    rw [times_perm h] at honce
    rw [ha.options options rfl, asked_perm h honce]
  conflict := by
    rintro stop rfl
    obtain ⟨flag, hflag, hstop, htimes⟩ := ha.conflict stop rfl
    exact ⟨flag, hflag, hstop, times_perm h flag ▸ htimes⟩

theorem toOption_eq (ha : Answers occurrences result) :
    result.toOption =
      if times occurrences .config ≤ 1 ∧ times occurrences .dryRun ≤ 1 then
        some (asked occurrences)
      else none := by
  cases result with
  | ok options =>
    rw [if_pos (ha.isOk_iff.mp rfl), ← ha.options options rfl]
    rfl
  | error stop =>
    rw [if_neg (mt ha.isOk_iff.mpr Bool.false_ne_true)]
    rfl

end Answers

end

/-- The occurrences in any order, each in any of its ways. -/
theorem parse_written {occurrences others : List Occurrence} (h : others.Perm occurrences) :
    Answers occurrences (parse (others.flatMap written)) ∧
      (parse (others.flatMap written)).toOption =
        (parse (occurrences.flatMap written)).toOption := by
  have hothers := (answers_parse others).perm h
  refine ⟨hothers, ?_⟩
  rw [hothers.toOption_eq, (answers_parse occurrences).toOption_eq]

/-- Four times louder, and a file whose name only an argument of its own can hold. -/
theorem parse_written_reversed :
    let file : Bytes := Utf8.ofString "=.toml"
    let occurrences : List Occurrence :=
      [.dryRun, .lettered 2 file (by decide +kernel) (by decide +kernel), .letters 1]
    let others : List Occurrence :=
      [.letters 1, .lettered 2 file (by decide +kernel) (by decide +kernel), .dryRun]
    others.Perm occurrences ∧
      Answers occurrences (parse (others.flatMap written)) ∧
      parse (others.flatMap written) =
        .ok { verbosity := 4, config := some file, dryRun := true } := by
  intro file occurrences others
  have hperm : others.Perm occurrences := List.reverse_perm occurrences
  exact ⟨hperm, (parse_written hperm).1, by decide +kernel⟩

end ManifestNotice.CommandLine
