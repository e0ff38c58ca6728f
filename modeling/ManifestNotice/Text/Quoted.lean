import ManifestNotice.Text.Extending
import ManifestNotice.Text.Hex
import ManifestNotice.Text.Printable

/-!
# Quoted text

Text between double quotes, in which every character can be told apart:
quotes and backslashes are escaped, and so is whatever does not print by
itself.
-/

namespace ManifestNotice.Text

def quotedChar (c : Char) : List Char :=
  match c with
  | '\x00' => ['\\', '0']
  | '\t' => ['\\', 't']
  | '\r' => ['\\', 'r']
  | '\n' => ['\\', 'n']
  | '\\' => ['\\', '\\']
  | '"' => ['\\', '"']
  | c =>
    if isExtending c || !isPrintable c then ['\\', 'u', '\x7b'] ++ hex c.toNat ++ ['\x7d'] else [c]

def quoted (s : String) : String :=
  String.ofList ('"' :: s.toList.flatMap quotedChar ++ ['"'])

end ManifestNotice.Text
