import ManifestNotice.Settings
import ManifestNotice.Text.Excerpt
import ManifestNotice.Toml.Document

/-!
# Settings overlays

A settings file is a TOML text whose top entries are texts under the names of
settings. It changes those settings and leaves the others as they are built
in.
-/

namespace ManifestNotice.Settings

inductive Problem where
  | unknownKey (name : List Char)
  | notText (value : Toml.Value)
  deriving BEq, DecidableEq, Repr

structure Offence where
  problem : Problem
  span : Toml.Span
  deriving BEq, DecidableEq, Repr

def Problem.message : Problem → String
  | .unknownKey name =>
    "unknown field " ++ tick (String.ofList name) ++ ", expected one of " ++
      ", ".intercalate (Setting.all.map (tick ·.key))
  | .notText value => "invalid type: " ++ value.describe ++ ", expected a string"
where
  tick (s : String) : String := "`" ++ s ++ "`"

def Offence.report (offence : Offence) (text : List Char) : String :=
  let start := text.length - offence.span.opened
  let size := offence.span.opened - offence.span.closed
  Text.excerpt "TOML parse error" (text.take start) ((text.drop start).take size)
    (text.drop (start + size)) offence.problem.message

def applyEntry (settings : Settings) (entry : Toml.Entry) : Except Offence Settings :=
  match Setting.ofKey? (String.ofList entry.key.name) with
  | none => .error ⟨.unknownKey entry.key.name, entry.key.span⟩
  | some setting =>
    match entry.value with
    | .text s => .ok (settings.set setting (String.ofList s))
    | value => .error ⟨.notText value, entry.span⟩

/-- The built-in settings changed entry by entry; the first offence ends it. -/
def ofEntries (entries : List Toml.Entry) : Except Offence Settings :=
  entries.foldlM applyEntry {}

inductive Refusal where
  | malformed
  | offending (offence : Offence)
  deriving BEq, DecidableEq, Repr

def parse (text : List Char) : Except Refusal Settings :=
  match Toml.parse? text with
  | none => .error .malformed
  | some entries => (ofEntries entries).mapError .offending

end ManifestNotice.Settings
