import ManifestNotice.Text.Utf8

/-!
# Excerpts

A report that points at a part of a text: the line where the part starts, and
a row of carets under it.
-/

namespace ManifestNotice.Text

def lastLine (text : List Char) : List Char :=
  (text.reverse.takeWhile (· != '\n')).reverse

def spaces (n : Nat) : List Char := List.replicate n ' '

/-- Points at `part`, which stands between `before` and `after`. Columns count
characters; carets cover the bytes of the part that are in its first line. -/
def excerpt (heading : String) (before part after : List Char) (message : String) : String :=
  let line := (toString (before.count '\n' + 1)).toList
  let column := (lastLine before).length
  let content := lastLine before ++ (part ++ after).takeWhile (· != '\n')
  let carets := max 1 (min (Utf8.size part) (Utf8.size content - column))
  let gutter := spaces (line.length + 1)
  String.ofList <|
    heading.toList ++ " at line ".toList ++ line ++ ", column ".toList ++
      (toString (column + 1)).toList ++ ['\n'] ++
    gutter ++ ['|', '\n'] ++
    line ++ " | ".toList ++ content ++ ['\n'] ++
    gutter ++ ['|'] ++ spaces (column + 1) ++ List.replicate carets '^' ++ ['\n'] ++
    message.toList ++ ['\n']

end ManifestNotice.Text
