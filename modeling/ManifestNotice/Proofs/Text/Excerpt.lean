import ManifestNotice.Text.Excerpt

/-!
# Excerpts of texts that differ

An excerpt says of the lines above it only how many they are
(`excerpt_eq_numbered`), and of those below nothing (`excerpt_append`).
-/

namespace ManifestNotice.Text

def numbered (heading : String) (number : Nat) (line part after : List Char) (message : String) :
    String :=
  let digits := (toString number).toList
  let content := line ++ (part ++ after).takeWhile (· != '\n')
  let carets := max 1 (min (Utf8.size part) (Utf8.size content - line.length))
  let gutter := spaces (digits.length + 1)
  String.ofList <|
    heading.toList ++ " at line ".toList ++ digits ++ ", column ".toList ++
      (toString (line.length + 1)).toList ++ ['\n'] ++
    gutter ++ ['|', '\n'] ++
    digits ++ " | ".toList ++ content ++ ['\n'] ++
    gutter ++ ['|'] ++ spaces (line.length + 1) ++ List.replicate carets '^' ++ ['\n'] ++
    message.toList ++ ['\n']

/-- Excerpts of two texts that are the same but for the numbers of their lines.
The numbers are the same as well, or differ as the texts do in all their line
breaks. -/
def SameExcerpt (text other : List Char) (excerpt second : String) : Prop :=
  ∃ heading number next line part after message,
    excerpt = numbered heading number line part after message ∧
    second = numbered heading next line part after message ∧
    (next = number ∨ next + text.count '\n' = number + other.count '\n')

theorem excerpt_eq_numbered (heading : String) (before part after : List Char) (message : String) :
    excerpt heading before part after message =
      numbered heading (before.count '\n' + 1) (lastLine before) part after message := rfl

theorem takeWhile_break (line rest : List Char) :
    (line ++ '\n' :: rest).takeWhile (· != '\n') = line.takeWhile (· != '\n') := by
  induction line with
  | nil => rfl
  | cons c line ih => rw [List.cons_append, List.takeWhile_cons, List.takeWhile_cons, ih]

/-- Nothing counts below the line. -/
theorem excerpt_append (heading : String) (before part after rest : List Char) (message : String)
    (h : '\n' ∈ after) :
    excerpt heading before part (after ++ rest) message =
      excerpt heading before part after message := by
  obtain ⟨line, below, rfl⟩ := List.append_of_mem h
  have hline (below : List Char) : (part ++ (line ++ '\n' :: below)).takeWhile (· != '\n') =
      (part ++ line).takeWhile (· != '\n') := by
    rw [← List.append_assoc, takeWhile_break]
  unfold excerpt
  rw [List.append_assoc, List.cons_append, hline, hline]

/-- Lines above do not count to the last one. -/
theorem lastLine_append {above : List Char} (h : above.getLast? = some '\n') (line : List Char) :
    lastLine (above ++ line) = lastLine line := by
  obtain ⟨above, rfl⟩ := List.getLast?_eq_some_iff.mp h
  simp only [lastLine, List.reverse_append, List.reverse_cons, List.reverse_nil, List.nil_append,
    List.cons_append, takeWhile_break]

theorem excerpt_below {above : List Char} (h : above.getLast? = some '\n') (heading : String)
    (before part after : List Char) (message : String) :
    excerpt heading (above ++ before) part after message =
      numbered heading (above.count '\n' + (before.count '\n' + 1)) (lastLine before) part after
        message := by
  rw [excerpt_eq_numbered, List.count_append, lastLine_append h, Nat.add_assoc]

end ManifestNotice.Text
