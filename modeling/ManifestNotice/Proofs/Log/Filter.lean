import ManifestNotice.Log.Filter
import Mathlib.Data.List.Basic

/-!
# Verbosity

The filters that stand for a count of requests to be verbose show the events up
to a level (`admits_usual`). So what is shown for a smaller count is a part of
what is shown for a larger one (`shown_sublist`), and a filter that is chosen and
can be read makes the count irrelevant (`choose_of_parse?`).
-/

namespace ManifestNotice.Log

theorem Event.target_cases (event : Event) :
    event.target = "manifest_notify::space" ∨ event.target = "manifest_notify::notifier" := by
  cases event <;> simp [target]

namespace Filter

-- ---------------------------------------------------------------------------
-- The filters for a count
-- ---------------------------------------------------------------------------

def levelFor : Nat → Level
  | 0 => .info
  | 1 => .debug
  | _ => .trace

def ours (verbosity : Nat) : Directive :=
  { threshold := some (levelFor verbosity), target := some "manifest_notify" }

def theirs : Directive := { threshold := some .debug, target := some "reqwest" }

def usual (verbosity : Nat) : Filter :=
  ours verbosity :: if verbosity < 2 then [] else [theirs]

theorem parse?_ofVerbosity (verbosity : Nat) :
    parse? (ofVerbosity verbosity) = some (usual verbosity) := by
  match verbosity with
  | 0 => decide +kernel
  | 1 => decide +kernel
  | n + 2 =>
    have htwo : parse? (ofVerbosity 2) = some (usual 2) := by decide +kernel
    have husual : usual (n + 2) = usual 2 := by simp [usual, ours, levelFor]
    rw [husual, ← htwo]
    rfl

theorem ours_fits (verbosity : Nat) (event : Event) : (ours verbosity).fits event = true := by
  rcases event.target_cases with h | h <;> simp [ours, Directive.fits, h]

theorem theirs_fits (event : Event) : theirs.fits event = false := by
  rcases event.target_cases with h | h <;> simp [theirs, Directive.fits, h] <;> decide +kernel

theorem admits_usual (verbosity : Nat) (event : Event) :
    (usual verbosity).admits event = (event.level.rank ≤ (levelFor verbosity).rank : Bool) := by
  have hleft : (usual verbosity).filter (fun d => d.isStatic && d.fits event) =
      [ours verbosity] := by
    have hstatic : (ours verbosity).isStatic = true := rfl
    unfold usual
    split <;> simp [hstatic, ours_fits, theirs_fits]
  rw [admits, hleft]
  rfl

theorem rank_levelFor_le {fewer more : Nat} (h : fewer ≤ more) :
    (levelFor fewer).rank ≤ (levelFor more).rank := by
  match fewer, more with
  | 0, 0 | 0, 1 | 0, _ + 2 | 1, 1 | 1, _ + 2 | _ + 2, _ + 2 => simp [levelFor, Level.rank]

-- ---------------------------------------------------------------------------
-- The choice
-- ---------------------------------------------------------------------------

theorem choose_of_parse? {chosen : Option String} {filter : Filter}
    (h : chosen.bind parse? = some filter) (verbosity : Nat) :
    choose verbosity chosen = filter := by
  rw [choose, h]
  rfl

theorem choose_usual {chosen : Option String} (h : chosen.bind parse? = none) (verbosity : Nat) :
    choose verbosity chosen = usual verbosity := by
  rw [choose, h, parse?_ofVerbosity]
  rfl

theorem shown_sublist {chosen other : Option String} {fewer more : Nat}
    (h : chosen.bind parse? = none) (ho : other.bind parse? = none) (hle : fewer ≤ more)
    (events : List Event) :
    ((choose fewer chosen).shown events).Sublist ((choose more other).shown events) := by
  rw [choose_usual h, choose_usual ho]
  apply List.monotone_filter_right
  intro event
  have := rank_levelFor_le hle
  simp only [admits_usual, decide_eq_true_eq]
  omega

end Filter

end ManifestNotice.Log
