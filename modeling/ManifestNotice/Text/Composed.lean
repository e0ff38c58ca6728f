import ManifestNotice.Text.CombiningClass
import ManifestNotice.Text.Composition

/-!
# Composed text

One form for texts that differ only in how their letters and marks are put
together: characters are taken apart, marks are put in order, and what can be
composed is.
-/

namespace ManifestNotice.Text

/-- The characters that a character is made of, down to those that are not
composed. The second one of two is never composed itself; `depth` bounds how
often the first one is. -/
def decomposed : Nat → Char → List Char
  | 0, c => [c]
  | depth + 1, c =>
    match partsOf? c with
    | some (first, second) => decomposed depth first ++ [second]
    | none => [c]

def compositionDepth : Nat := 3

abbrev Classed := Nat × Char

def classed (c : Char) : Classed := (combiningClass c, c)

/-- Puts each run of marks in order of their classes; marks of one class keep
theirs. `run` is the run before the rest, from its end. -/
def orderedFrom (run : List Classed) : List Classed → List Classed
  | [] => run.reverse.mergeSort fun a b => a.1 ≤ b.1
  | (k, c) :: rest =>
    if k == 0 then (run.reverse.mergeSort fun a b => a.1 ≤ b.1) ++ (k, c) :: orderedFrom [] rest
    else orderedFrom ((k, c) :: run) rest

/-- Composes `base` with what follows it. Of the marks that stay apart, given
from the last one, each keeps off those behind it that are not of a higher
class. -/
def composedFrom (base : Char) (apart : List Classed) : List Classed → List Char
  | [] => base :: (apart.map (·.2)).reverse
  | (k, c) :: rest =>
    let joined := if apart.head?.all (·.1 < k) then join? base c else none
    match joined with
    | some whole => composedFrom whole apart rest
    | none =>
      if k == 0 then base :: (apart.map (·.2)).reverse ++ composedFrom c [] rest
      else composedFrom base ((k, c) :: apart) rest

/-- Below U+0300 every text is composed. -/
def isPlain (c : Char) : Bool := c < '\u0300'

def composed (text : List Char) : List Char :=
  if text.all isPlain then text
  else
    match orderedFrom [] ((text.flatMap (decomposed compositionDepth)).map classed) with
    | [] => []
    | (_, c) :: rest => composedFrom c [] rest

theorem composed_eq_self {text : List Char} (h : text.all isPlain) : composed text = text := by
  rw [composed, if_pos h]

end ManifestNotice.Text
